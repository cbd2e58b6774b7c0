import GpsDeniedDrone.ParamConfirmation

/-!
What a True result of the switch says about PX4, over a link that loses, delays and
reorders.
-/
namespace SetLocalizationSource
open PythonFloat PastTime RegisterLink

/-- What holds all along a call that goes through `params`, on a PX4 that started with
    the words of `start`. -/
structure Sound (params : List Param) (start : String → BitVec 32) (run : List Action)
    (s : System) : Prop where
  faithful : Faithful start s.link
  order : s.link.requested.reverse ++ s.call.pending.map Param.name = params.map Param.name
  asked : ∀ name word, (name, word) ∈ s.link.requests →
    ∃ p ∈ params, ∃ msg, p.send = some msg ∧ p.name = name ∧ msg.paramValue = word
  pending : ∀ p ∈ s.call.pending, p ∈ params
  awaited : ∀ p, s.call.phase = .awaiting p → p ∈ params
  kept : s.call.ok = true → ∀ p ∈ params, p.Proper (start p.name) →
    p.name ∈ s.link.requested → s.call.phase ≠ .awaiting p → p.Held (s.link.store p.name)
  returned : ∀ ok, s.call.phase = .returned ok →
    s.call.pending = [] ∧ ok = s.call.ok ∨ ok = false ∧ .heartbeat false ∈ run
  raised : s.call.phase = .raised → ∃ p ∈ params, p.send = none

section Steps
variable {params : List Param} {start : String → BitVec 32} {run : List Action} {s : System}
  (distinct : (params.map Param.name).Nodup) (plain : ∀ p ∈ params, p.Plain)

include distinct in
theorem same_param {p q : Param} (p_mem : p ∈ params) (q_mem : q ∈ params)
    (same : p.name = q.name) : p = q :=
  List.inj_on_of_nodup_map distinct p_mem q_mem same

include distinct in
theorem request_is_send (sound : Sound params start run s) {p : Param} {word : BitVec 32}
    (mem : p ∈ params) (request : (p.name, word) ∈ s.link.requests) :
    ∃ msg, p.send = some msg ∧ msg.paramValue = word := by
  obtain ⟨q, q_mem, msg, send, same, value⟩ := sound.asked p.name word request
  rw [same_param distinct q_mem mem same] at send
  exact ⟨msg, send, value⟩

include distinct in
theorem genuine_of_report (sound : Sound params start run s) {p : Param} {word : BitVec 32}
    (mem : p ∈ params) (report : (p.name, word) ∈ s.link.reports) :
    p.Genuine (start p.name) word := by
  rcases sound.faithful.reported p.name word report with first | last
  · exact Or.inl first
  · rcases sound.faithful.stored p.name with untouched | written
    · exact Or.inl (last.trans untouched)
    · exact Or.inr (request_is_send distinct sound mem (last ▸ written))

theorem link_sound {link : Link String (BitVec 32)} {a : Action} (sound : Sound params start run s)
    (faithful : Faithful start link) (same : link.requests = s.link.requests)
    (kept : ∀ p ∈ params, p.Held (s.link.store p.name) → p.Held (link.store p.name)) :
    Sound params start (a :: run) { s with link := link } where
  faithful := faithful
  order := by
    rw [Link.requested, same]
    exact sound.order
  asked := by
    rw [same]
    exact sound.asked
  pending := sound.pending
  awaited := sound.awaited
  kept ok p mem proper requested phase := by
    rw [Link.requested, same] at requested
    exact kept p mem (sound.kept ok p mem proper requested phase)
  returned ok phase := (sound.returned ok phase).imp_right fun lost =>
    ⟨lost.1, List.mem_cons_of_mem a lost.2⟩
  raised := sound.raised

include distinct plain in
theorem serve_sound {a : Action} {name : String} {word : BitVec 32}
    (sound : Sound params start run s) (mem : (name, word) ∈ s.link.requests) :
    Sound params start (a :: run) { s with link := s.link.serve name word } := by
  apply link_sound sound (serve_faithful sound.faithful mem) rfl
  intro p p_mem held
  apply store_of_serve held
  intro here
  subst here
  obtain ⟨msg, send, rfl⟩ := request_is_send distinct sound p_mem mem
  exact held_of_send (plain p p_mem) send held

theorem answer_sound {a : Action} {param : Param} {ack : Option ParamValue}
    (sound : Sound params start run s) (phase : s.call.phase = .awaiting param)
    (shown : (param.confirm ack).1 = true → param.Proper (start param.name) →
      param.Held (s.link.store param.name)) :
    Sound params start (a :: run) { s with call := (s.call.answer param ack).1 } where
  faithful := sound.faithful
  order := sound.order
  asked := sound.asked
  pending := sound.pending
  awaited _ other := by cases other
  kept ok p mem proper requested _ := by
    obtain ⟨good, before⟩ := (Bool.and_eq_true _ _).mp ok
    by_cases here : p = param
    · rw [here] at proper ⊢
      exact shown good proper
    · apply sound.kept before p mem proper requested
      rw [phase]
      intro same
      exact here (Phase.awaiting.inj same).symm
  returned _ other := by cases other
  raised other := by cases other

include distinct plain in
theorem receive_sound {a : Action} {param : Param} {name : String} {word : BitVec 32}
    (sound : Sound params start run s) (phase : s.call.phase = .awaiting param)
    (report : (name, word) ∈ s.link.reports) :
    Sound params start (a :: run)
      { s with call := (s.call.answer param (some ⟨name, unpackFloat word⟩)).1 } := by
  apply answer_sound sound phase
  intro good proper
  have mem := sound.awaited param phase
  obtain ⟨rfl, held⟩ := held_of_confirm (plain param mem) proper good
    fun same => genuine_of_report distinct sound mem (same ▸ report)
  apply store_of_report sound.faithful report held
  intro word' request
  obtain ⟨msg, send, rfl⟩ := request_is_send distinct sound mem request
  exact held_of_send (plain param mem) send held

theorem timeout_sound {a : Action} {param : Param} (sound : Sound params start run s)
    (phase : s.call.phase = .awaiting param) :
    Sound params start (a :: run) { s with call := (s.call.answer param none).1 } := by
  apply answer_sound sound phase
  intro good
  obtain ⟨name, value⟩ := param
  cases value <;> cases good

theorem phase_sound {a : Action} {phase : Phase} (sound : Sound params start run s)
    (idle : ∀ p, s.call.phase ≠ .awaiting p) (next : ∀ p, phase ≠ .awaiting p)
    (returned : ∀ ok, phase = .returned ok → s.call.pending = [] ∧ ok = s.call.ok ∨
      ok = false ∧ .heartbeat false ∈ a :: run)
    (raised : phase = .raised → ∃ p ∈ params, p.send = none) :
    Sound params start (a :: run) { s with call := { s.call with phase := phase } } where
  faithful := sound.faithful
  order := sound.order
  asked := sound.asked
  pending := sound.pending
  awaited p wait := absurd wait (next p)
  kept ok p mem proper requested _ := sound.kept ok p mem proper requested (idle p)
  returned := returned
  raised := raised

theorem connect_sound {came : Bool} (sound : Sound params start run s)
    (phase : s.call.phase = .connecting) :
    Sound params start (.heartbeat came :: run) { s with call := (s.call.connect came).1 } := by
  have idle : ∀ p, s.call.phase ≠ .awaiting p := by simp [phase]
  cases came with
  | true => exact phase_sound sound idle nofun nofun nofun
  | false =>
    refine phase_sound sound idle (by simp) ?_ nofun
    intro ok returned
    exact Or.inr ⟨(Phase.returned.inj returned).symm, List.mem_cons_self⟩

theorem proceed_cases (c : Call) :
    (c.pending = [] ∧ ∃ line,
        c.proceed = ({ c with phase := .returned c.ok }, [.log line])) ∨
      (∃ param pending, c.pending = param :: pending ∧ param.send = none ∧
        c.proceed = ({ c with phase := .raised }, [])) ∨
      ∃ param pending msg, c.pending = param :: pending ∧ param.send = some msg ∧
        c.proceed = ({ c with phase := .awaiting param, pending := pending }, [.sent msg]) := by
  obtain ⟨source, phase, pending, ok⟩ := c
  cases pending with
  | nil => exact Or.inl ⟨rfl, _, rfl⟩
  | cons param pending =>
    cases send : param.send with
    | none => exact Or.inr (Or.inl ⟨param, pending, rfl, send, by simp [Call.proceed, send]⟩)
    | some msg =>
      exact Or.inr (Or.inr ⟨param, pending, msg, rfl, send, by simp [Call.proceed, send]⟩)

include distinct in
theorem send_sound {a : Action} {param : Param} {pending : List Param} {msg : ParamSet}
    (sound : Sound params start run s) (phase : s.call.phase = .deciding)
    (left : s.call.pending = param :: pending) (send : param.send = some msg) :
    Sound params start (a :: run) ⟨{ s.call with phase := .awaiting param, pending := pending },
      s.link.request msg.paramId msg.paramValue⟩ := by
  have name := send_name send
  have mem : param ∈ params := sound.pending param (left ▸ List.mem_cons_self)
  have order := sound.order
  rw [left, List.map_cons] at order
  have fresh : msg.paramId ∉ s.link.requested := by
    rw [name]
    intro earlier
    have once := distinct
    rw [← order, List.nodup_append] at once
    exact once.2.2 _ (List.mem_reverse.mpr earlier) _ List.mem_cons_self rfl
  constructor
  · exact request_faithful sound.faithful fresh msg.paramValue
  · rw [← order, ← name]
    simp [Link.requested, Link.request]
  · intro other word request
    rcases List.mem_cons.mp request with now | before
    · obtain ⟨rfl, rfl⟩ := Prod.mk.inj now
      exact ⟨param, mem, msg, send, name.symm, rfl⟩
    · exact sound.asked other word before
  · intro p later
    exact sound.pending p (left ▸ List.mem_cons_of_mem param later)
  · intro p wait
    exact Phase.awaiting.inj wait ▸ mem
  · intro ok p p_mem proper requested other
    rcases List.mem_cons.mp requested with now | before
    · have same : p = param := same_param distinct p_mem mem (now.trans name)
      exact absurd (same ▸ rfl) other
    · exact sound.kept ok p p_mem proper before (by simp [phase])
  · nofun
  · nofun

include distinct in
theorem proceed_sound {a : Action} (sound : Sound params start run s)
    (phase : s.call.phase = .deciding) :
    Sound params start (a :: run)
      ⟨s.call.proceed.1, Link.submit s.link s.call.proceed.2⟩ := by
  have idle : ∀ p, s.call.phase ≠ .awaiting p := by simp [phase]
  rcases proceed_cases s.call with ⟨left, line, done⟩ | ⟨param, _, left, unsendable, raised⟩ |
    ⟨param, pending, msg, left, send, sent⟩
  · rw [done]
    refine phase_sound sound idle (by simp) ?_ nofun
    intro ok returned
    exact Or.inl ⟨left, (Phase.returned.inj returned).symm⟩
  · rw [raised]
    refine phase_sound sound idle nofun nofun fun _ => ⟨param, ?_, unsendable⟩
    exact sound.pending param (left ▸ List.mem_cons_self)
  · rw [sent]
    exact send_sound distinct sound phase left send

theorem stutter_sound {a : Action} (sound : Sound params start run s) :
    Sound params start (a :: run) s :=
  link_sound sound sound.faithful rfl fun _ _ held => held

include distinct plain in
theorem step_sound (a : Action) (sound : Sound params start run s) :
    Sound params start (a :: run) (step s a).1 := by
  cases a with
  | heartbeat came =>
    by_cases phase : s.call.phase = .connecting
    · simpa [step, phase] using connect_sound sound phase
    · simpa [step, phase] using stutter_sound sound
  | proceed =>
    by_cases phase : s.call.phase = .deciding
    · simpa [step, phase] using proceed_sound distinct sound phase
    · simpa [step, phase] using stutter_sound sound
  | serve name word =>
    by_cases mem : (name, word) ∈ s.link.requests
    · simpa [step, mem] using serve_sound distinct plain sound mem
    · simpa [step, mem] using stutter_sound sound
  | report name =>
    exact link_sound sound (report_faithful sound.faithful name) rfl fun _ _ held => held
  | receive name word =>
    cases phase : s.call.phase with
    | awaiting param =>
      by_cases report : (name, word) ∈ s.link.reports
      · simpa [step, phase, report] using receive_sound distinct plain sound phase report
      · simpa [step, phase, report] using stutter_sound sound
    | _ => simpa [step, phase] using stutter_sound sound
  | timeout =>
    cases phase : s.call.phase with
    | awaiting param => simpa [step, phase] using timeout_sound sound phase
    | _ => simpa [step, phase] using stutter_sound sound

theorem all_sent (sound : Sound params start run s) (returned : s.call.phase = .returned true) :
    s.call.ok = true ∧ s.link.requested.reverse = params.map Param.name := by
  rcases sound.returned true returned with ⟨done, ok⟩ | ⟨no, _⟩
  · have order := sound.order
    rw [done, List.map_nil, List.append_nil] at order
    exact ⟨ok.symm, order⟩
  · cases no

theorem held_of_true (sound : Sound params start run s) (returned : s.call.phase = .returned true)
    {p : Param} (mem : p ∈ params) (proper : p.Proper (start p.name)) :
    p.Held (s.link.store p.name) := by
  obtain ⟨ok, order⟩ := all_sent sound returned
  have requested : p.name ∈ s.link.requested := by
    rw [← List.mem_reverse, order]
    exact List.mem_map_of_mem mem
  exact sound.kept ok p mem proper requested (by rw [returned]; nofun)

end Steps

/- Whole calls. -/

theorem source_cases {source : String} {ints : List (String × Int)}
    (known : sources.lookup source = some ints) :
    source = "gps" ∧ ints = [("EKF2_GPS_CTRL", 7), ("EKF2_EV_CTRL", 0)] ∨
      source = "vision" ∧ ints =
        [("EKF2_GPS_CTRL", 0), ("EKF2_EV_CTRL", 5), ("EKF2_NOAID_TOUT", 10000000)] := by
  by_cases gps : source = "gps"
  · subst gps
    exact Or.inl ⟨rfl, (Option.some.inj known).symm⟩
  · by_cases vision : source = "vision"
    · subst vision
      exact Or.inr ⟨rfl, (Option.some.inj known).symm⟩
    · have not_gps : (source == "gps") = false := beq_eq_false_iff_ne.mpr gps
      have not_vision : (source == "vision") = false := beq_eq_false_iff_ne.mpr vision
      simp [sources, List.lookup_cons, not_gps, not_vision] at known

section Calls
variable {source : String} {ints : List (String × Int)}
  (known : sources.lookup source = some ints) (arm : Option LeverArm)

include known in
theorem profile_distinct :
    ((profile source ints (leverArmFrd arm)).map Param.name).Nodup := by
  rcases source_cases known with ⟨rfl, rfl⟩ | ⟨rfl, rfl⟩
  · show ["EKF2_GPS_CTRL", "EKF2_EV_CTRL"].Nodup
    decide +kernel
  · cases arm with
    | none => decide +kernel
    | some arm =>
      show ["EKF2_GPS_CTRL", "EKF2_EV_CTRL", "EKF2_NOAID_TOUT", "EKF2_EV_POS_X", "EKF2_EV_POS_Y",
        "EKF2_EV_POS_Z", "EKF2_EVP_NOISE", "EKF2_EVV_NOISE"].Nodup
      decide +kernel

include known in
theorem profile_plain : ∀ p ∈ profile source ints (leverArmFrd arm), p.Plain := by
  intro p mem
  rcases List.mem_append.mp mem with int | float
  · have all : ∀ p ∈ ints.map (fun p => (⟨p.1, .int p.2⟩ : Param)), p.Plain := by
      rcases source_cases known with ⟨rfl, rfl⟩ | ⟨rfl, rfl⟩ <;> decide +kernel
    exact all p int
  · by_cases vision : source = "vision"
    · rw [if_pos vision] at float
      obtain ⟨_, _, rfl⟩ := List.mem_map.mp float
      exact trivial
    · rw [if_neg vision] at float
      exact absurd float List.not_mem_nil

include known in
theorem start_sound (start : String → BitVec 32) :
    Sound (profile source ints (leverArmFrd arm)) start [] (switch source arm start).start := by
  have begun : (switch source arm start).start =
      ⟨⟨source, .connecting, profile source ints (leverArmFrd arm), true⟩, Link.idle start⟩ := by
    simp only [switch, setLocalizationSource, known]
  rw [begun]
  constructor
  · exact idle_faithful start
  · rfl
  · intro _ _ mem
    exact absurd mem List.not_mem_nil
  · exact fun _ mem => mem
  · nofun
  · intro _ _ _ _ requested
    exact absurd requested List.not_mem_nil
  · nofun
  · nofun

include known in
theorem after_sound (start : String → BitVec 32) (run : List Action) :
    Sound (profile source ints (leverArmFrd arm)) start run
      ((switch source arm start).after run) := by
  apply (switch source arm start).invariant
    (fun run s => Sound (profile source ints (leverArmFrd arm)) start run s)
  · exact start_sound known arm start
  · intro past a sound
    exact step_sound (profile_distinct known arm) (profile_plain known arm) a sound

end Calls

def sentNames (out : List Output) : List String :=
  out.filterMap fun
    | .sent msg => some msg.paramId
    | .log _ => none

theorem submit_requested (l : Link String (BitVec 32)) (out : List Output) :
    (Link.submit l out).requested.reverse = l.requested.reverse ++ sentNames out := by
  induction out generalizing l with
  | nil => simp [Link.submit, sentNames]
  | cons o out ih =>
    cases o with
    | sent msg =>
      have later := ih (l.request msg.paramId msg.paramValue)
      simpa [Link.submit, sentNames, Link.request, Link.requested] using later
    | log line => simpa [Link.submit, sentNames] using ih l

theorem step_requested (s : System) (a : Action) :
    (step s a).1.link.requested.reverse =
      s.link.requested.reverse ++ sentNames (step s a).2 := by
  have silent : ∀ l : Link String (BitVec 32), l.requested.reverse =
      l.requested.reverse ++ sentNames [] := by simp [sentNames]
  cases a with
  | heartbeat came =>
    by_cases phase : s.call.phase = .connecting
    · cases came <;> simp [step, phase, Call.connect, sentNames]
    · simpa [step, phase] using silent s.link
  | proceed =>
    by_cases phase : s.call.phase = .deciding
    · simpa [step, phase] using submit_requested s.link s.call.proceed.2
    · simpa [step, phase] using silent s.link
  | serve name word =>
    by_cases mem : (name, word) ∈ s.link.requests
    · have same : (s.link.serve name word).requested = s.link.requested := rfl
      simp [step, mem, same, sentNames]
    · simpa [step, mem] using silent s.link
  | report name => exact silent (s.link.report name)
  | receive name word =>
    cases phase : s.call.phase with
    | awaiting param =>
      by_cases report : (name, word) ∈ s.link.reports
      · simp [step, phase, report, Call.answer, sentNames]
      · simpa [step, phase, report] using silent s.link
    | _ => simpa [step, phase] using silent s.link
  | timeout =>
    cases phase : s.call.phase with
    | awaiting param => simp [step, phase, Call.answer, sentNames]
    | _ => simpa [step, phase] using silent s.link

theorem requested_is_sent (source : String) (arm : Option LeverArm) (start : String → BitVec 32)
    (run : List Action) :
    ((switch source arm start).after run).link.requested.reverse =
      sentNames ((switch source arm start).trace run) := by
  induction run with
  | nil => simp [Machine.after, Machine.trace, switch, Link.idle, Link.requested, sentNames]
  | cons a past ih =>
    have one : ((switch source arm start).after (a :: past)).link.requested.reverse =
        ((switch source arm start).after past).link.requested.reverse ++
          sentNames ((switch source arm start).emitted past a) := step_requested _ a
    rw [one, ih, Machine.trace, sentNames, sentNames, sentNames, List.filterMap_append]

/- The caller's side alone brings a call to its end. -/

def CallerAction (a : Action) : Prop := a = .heartbeat true ∨ a = .proceed ∨ a = .timeout

def Call.left (c : Call) : Nat :=
  match c.phase with
  | .connecting | .awaiting _ => 2 * c.pending.length + 1
  | _ => 2 * c.pending.length

def Phase.Running : Phase → Prop
  | .connecting | .deciding | .awaiting _ => True
  | .returned _ | .raised => False

theorem caller_progress {s : System} (running : s.call.phase.Running)
    (sendable : ∀ p ∈ s.call.pending, p.send ≠ none) :
    ∃ a, CallerAction a ∧ ((∃ ok, (step s a).1.call.phase = .returned ok) ∨
      (step s a).1.call.phase.Running ∧ (step s a).1.call.left < s.call.left ∧
        ∀ p ∈ (step s a).1.call.pending, p ∈ s.call.pending) := by
  cases phase : s.call.phase with
  | connecting =>
    have next : (step s (.heartbeat true)).1.call = { s.call with phase := .deciding } := by
      simp [step, phase, Call.connect]
    refine ⟨.heartbeat true, Or.inl rfl, Or.inr ?_⟩
    rw [next]
    refine ⟨trivial, ?_, fun _ mem => mem⟩
    simp only [Call.left, phase]
    omega
  | deciding =>
    have next : (step s .proceed).1.call = s.call.proceed.1 := by simp [step, phase]
    refine ⟨.proceed, Or.inr (Or.inl rfl), ?_⟩
    rw [next]
    rcases proceed_cases s.call with ⟨_, _, done⟩ | ⟨param, _, pending, unsendable, _⟩ |
      ⟨param, rest, msg, pending, _, sent⟩
    · exact Or.inl ⟨s.call.ok, by rw [done]⟩
    · exact absurd unsendable (sendable param (pending ▸ List.mem_cons_self))
    · apply Or.inr
      rw [sent]
      refine ⟨trivial, ?_, fun p mem => pending ▸ List.mem_cons_of_mem param mem⟩
      simp only [Call.left, phase, pending, List.length_cons]
      omega
  | awaiting param =>
    have next : (step s .timeout).1.call = (s.call.answer param none).1 := by simp [step, phase]
    refine ⟨.timeout, Or.inr (Or.inr rfl), Or.inr ?_⟩
    rw [next]
    refine ⟨trivial, ?_, fun _ mem => mem⟩
    simp only [Call.answer, Call.left, phase]
    omega
  | returned | raised =>
    rw [phase] at running
    exact running.elim

theorem running_returns {source : String} {arm : Option LeverArm} {start : String → BitVec 32}
    (left : Nat) (run : List Action)
    (running : ((switch source arm start).after run).call.phase.Running)
    (bound : ((switch source arm start).after run).call.left ≤ left)
    (sendable : ∀ p ∈ ((switch source arm start).after run).call.pending, p.send ≠ none) :
    ∃ later, (∀ a ∈ later, CallerAction a) ∧
      ∃ ok, ((switch source arm start).after (later ++ run)).call.phase = .returned ok := by
  induction left generalizing run with
  | zero =>
    obtain ⟨a, caller, returned | ⟨_, less, _⟩⟩ := caller_progress running sendable
    · exact ⟨[a], by simpa using caller, returned⟩
    · omega
  | succ left ih =>
    obtain ⟨a, caller, returned | ⟨again, less, pending⟩⟩ := caller_progress running sendable
    · exact ⟨[a], by simpa using caller, returned⟩
    · have bound' : ((switch source arm start).after (a :: run)).call.left ≤ left :=
        Nat.le_of_lt_succ (Nat.lt_of_lt_of_le less bound)
      obtain ⟨later, callers, ok, returned⟩ := ih (a :: run) again bound'
        fun p mem => sendable p (pending p mem)
      refine ⟨later ++ [a], ?_, ok, ?_⟩
      · intro b mem
        rcases List.mem_append.mp mem with early | last
        · exact callers b early
        · rwa [List.mem_singleton.mp last]
      · rwa [List.append_assoc]

/-- The law of one call after `run`: every parameter is sent once and in order unless
    there was no heartbeat, a True result means that PX4 holds them all, and the caller
    alone can bring the call to its return. -/
structure SwitchLaw (source : String) (ints : List (String × Int)) (arm : Option LeverArm)
    (start : String → BitVec 32) (run : List Action) : Prop where
  once : ∀ ok, ((switch source arm start).after run).call.phase = .returned ok →
    .heartbeat false ∉ run →
      sentNames ((switch source arm start).trace run) =
        (profile source ints (leverArmFrd arm)).map Param.name
  held : ((switch source arm start).after run).call.phase = .returned true →
    ∀ p ∈ profile source ints (leverArmFrd arm),
      p.Held (((switch source arm start).after run).link.store p.name)
  returns : ∃ later, (∀ a ∈ later, CallerAction a) ∧
    ∃ ok, ((switch source arm start).after (later ++ run)).call.phase = .returned ok

theorem true_means_held {source : String} {ints : List (String × Int)}
    (known : sources.lookup source = some ints) (arm : Option LeverArm)
    (start : String → BitVec 32)
    (proper : ∀ p ∈ profile source ints (leverArmFrd arm), p.Proper (start p.name))
    (run : List Action) : SwitchLaw source ints arm start run := by
  have sound := after_sound known arm start run
  have sendable : ∀ p ∈ profile source ints (leverArmFrd arm), p.send ≠ none :=
    fun p mem => send_isSome (profile_plain known arm p mem) (proper p mem)
  constructor
  · intro ok returned heard
    have order := sound.order
    rcases sound.returned ok returned with ⟨done, _⟩ | ⟨_, lost⟩
    · rwa [done, List.map_nil, List.append_nil, requested_is_sent] at order
    · exact absurd lost heard
  · intro returned p mem
    exact held_of_true sound returned mem (proper p mem)
  · have rest : ∀ p ∈ ((switch source arm start).after run).call.pending, p.send ≠ none :=
      fun p mem => sendable p (sound.pending p mem)
    cases phase : ((switch source arm start).after run).call.phase with
    | returned ok => exact ⟨[], by simp, ok, phase⟩
    | raised =>
      obtain ⟨p, mem, unsendable⟩ := sound.raised phase
      exact absurd unsendable (sendable p mem)
    | connecting | deciding | awaiting =>
      exact running_returns _ run (phase ▸ trivial) (le_refl _) rest

/- Runs over a link that answers at once. -/

/-- A parameter is sent, stored, and the answer received. Newest first. -/
def exchange (msg : ParamSet) : List Action :=
  [.receive msg.paramId msg.paramValue, .serve msg.paramId msg.paramValue, .proceed]

def exchanges (params : List Param) : List Action :=
  (params.filterMap Param.send).reverse.flatMap exchange

def visionInts : List (String × Int) :=
  [("EKF2_GPS_CTRL", 0), ("EKF2_EV_CTRL", 5), ("EKF2_NOAID_TOUT", 10000000)]

def visionProfile (arm : Option LeverArm) : List Param :=
  profile "vision" visionInts (leverArmFrd arm)

def promptSwitch : List Action :=
  .proceed :: exchanges (visionProfile none) ++ [.heartbeat true]

theorem true_means_held_prompt :
    ((switch "vision" none fun _ => 0).after promptSwitch).call.phase = .returned true ∧
      SwitchLaw "vision" visionInts none (fun _ => 0) promptSwitch :=
  ⟨by decide +kernel, true_means_held (by decide +kernel) none (fun _ => 0) (by decide +kernel)
    promptSwitch⟩

/-- `--ev-pos-x nan`. The PARAM_SET for it is lost, and what is taken for the answer is a
    report of the 0.0 that PX4 has. -/
def nanArm : LeverArm := ⟨.nan false 0, .finite false 0, .finite false 0⟩

def nanSwitch : List Action :=
  .proceed :: exchanges ((visionProfile (some nanArm)).drop 4) ++
    [.receive "EKF2_EV_POS_X" 0, .report "EKF2_EV_POS_X", .proceed] ++
    exchanges ((visionProfile (some nanArm)).take 3) ++ [.heartbeat true]

theorem nan_confirmed : ¬ ∀ (source : String) (ints : List (String × Int)) (arm : Option LeverArm)
    (start : String → BitVec 32) (run : List Action), sources.lookup source = some ints →
      SwitchLaw source ints arm start run := by
  intro all
  have law := all "vision" visionInts (some nanArm) (fun _ => 0) nanSwitch (by decide +kernel)
  obtain ⟨_, _, _, number, _⟩ := law.held (by decide +kernel)
    ⟨"EKF2_EV_POS_X", .float (.nan false 0)⟩ (by decide +kernel)
  cases number

end SetLocalizationSource
