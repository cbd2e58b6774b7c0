import GpsDeniedDrone.SetLocalizationSource

/-!
One parameter: what an accepted answer says of the word PX4 holds.
-/
namespace SetLocalizationSource
open PythonFloat PastTime RegisterLink

def NotNan (word : BitVec 32) : Prop := codeOf word ≤ infCode

instance (word : BitVec 32) : Decidable (NotNan word) := inferInstanceAs (Decidable (_ ≤ _))

def Sendable (value : PyFloat) : Prop := value.number.isSome ∧ (packFloat value).isSome

instance (value : PyFloat) : Decidable (Sendable value) := inferInstanceAs (Decidable (_ ∧ _))

/-- PX4 holds the value asked for: an integer exactly, a float within 1e-4. -/
def Param.Held (p : Param) (word : BitVec 32) : Prop :=
  match p.value with
  | .int value => unpackInt word = value
  | .float value => ∃ stored asked, (unpackFloat word).number = some stored ∧
      value.number = some asked ∧ |stored - asked| ≤ 1 / 10000

/-- No NaN is asked for or there to begin with, and no float is too large to send. -/
def Param.Proper (p : Param) (start : BitVec 32) : Prop :=
  match p.value with
  | .int _ => True
  | .float value => Sendable value ∧ NotNan start

instance (p : Param) (start : BitVec 32) : Decidable (p.Proper start) :=
  match p with
  | ⟨_, .int _⟩ => isTrue trivial
  | ⟨_, .float _⟩ => inferInstanceAs (Decidable (_ ∧ _))

/-- An integer in range, and one that survives the float on the way: it does not have the
    bits of a NaN. -/
def Param.Plain (p : Param) : Prop :=
  match p.value with
  | .int value => (packInt value).isSome ∧ NotNan (BitVec.ofInt 32 value)
  | .float _ => True

instance (p : Param) : Decidable p.Plain :=
  match p with
  | ⟨_, .int _⟩ => inferInstanceAs (Decidable (_ ∧ _))
  | ⟨_, .float _⟩ => isTrue trivial

theorem paramSetSend_some {name : String} {value : Int} {msg : ParamSet}
    (send : paramSetSend name value = some msg) :
    ∃ bits word, packInt value = some bits ∧ packFloat (unpackFloat bits) = some word ∧
      msg = ⟨name, word, .int32⟩ := by
  simp only [paramSetSend, int32ToMavlinkFloat, Option.bind_eq_bind, Option.bind_eq_some_iff,
    Option.map_eq_some_iff] at send
  obtain ⟨_, ⟨bits, pack, rfl⟩, word, wire, made⟩ := send
  exact ⟨bits, word, pack, wire, (Option.some.inj made).symm⟩

theorem floatParamSetSend_some {name : String} {value : PyFloat} {msg : ParamSet}
    (send : floatParamSetSend name value = some msg) :
    ∃ word, packFloat value = some word ∧ msg = ⟨name, word, .real32⟩ := by
  simp only [floatParamSetSend, Option.bind_eq_bind, Option.bind_eq_some_iff] at send
  obtain ⟨word, wire, made⟩ := send
  exact ⟨word, wire, (Option.some.inj made).symm⟩

theorem send_name {p : Param} {msg : ParamSet} (send : p.send = some msg) :
    msg.paramId = p.name := by
  obtain ⟨name, value⟩ := p
  cases value with
  | int value =>
    obtain ⟨_, _, _, _, rfl⟩ := paramSetSend_some send
    rfl
  | float value =>
    obtain ⟨_, _, rfl⟩ := floatParamSetSend_some send
    rfl

theorem decoded (word : BitVec 32) :
    mavlinkFloatToInt32 (unpackFloat word) = some (unpackInt (quieted word)) := by
  rw [mavlinkFloatToInt32, pack_unpackFloat, Option.map_some]

theorem quieted_of_notNan {word : BitVec 32} (number : NotNan (quieted word)) :
    quieted word = word := quieted_self ((codeOf_quieted word).mp number)

theorem held_of_decoded {value : Int} {word : BitVec 32} (plain : NotNan (BitVec.ofInt 32 value))
    (same : mavlinkFloatToInt32 (unpackFloat word) = some value) : unpackInt word = value := by
  rw [decoded, Option.some.injEq] at same
  have bits : quieted word = BitVec.ofInt 32 value := by
    rw [← same, unpackInt, BitVec.ofInt_toInt]
  have number : NotNan (quieted word) := bits ▸ plain
  rwa [quieted_of_notNan number] at same

theorem near_of_not_exceeds {x y : PyFloat} {asked bound : ℚ} (number : y.number = some asked)
    (plain : ∀ negative payload, x ≠ .nan negative payload)
    (close : exceeds (absDiff x y) bound = false) :
    ∃ stored, x.number = some stored ∧ |stored - asked| ≤ bound := by
  cases y with
  | inf | nan => cases number
  | finite m y =>
    cases x with
    | nan negative payload => exact absurd rfl (plain negative payload)
    | inf => cases close
    | finite n x =>
      have value : signed m y = asked := Option.some.inj number
      refine ⟨signed n x, rfl, ?_⟩
      have magnitude : ¬ bound < |signed n (x : ℚ) - signed m y| := by
        simpa [absDiff, exceeds, PyFloat.ofRat, signed, abs_nonneg, not_lt.mpr] using close
      rw [← value]
      exact not_lt.mp magnitude

theorem unpackFloat_ne_nan {word : BitVec 32} (number : NotNan word) (negative : Bool)
    (payload : BitVec 51) : unpackFloat word ≠ .nan negative payload := by
  unfold unpackFloat
  split_ifs with finite infinite
  · exact PyFloat.noConfusion
  · exact PyFloat.noConfusion
  · exact absurd (Nat.lt_of_le_of_ne number infinite) finite

theorem send_isSome {p : Param} {start : BitVec 32} (plain : p.Plain) (proper : p.Proper start) :
    p.send ≠ none := by
  obtain ⟨name, value⟩ := p
  cases value with
  | int value =>
    obtain ⟨bits, pack⟩ := Option.isSome_iff_exists.mp plain.1
    simp [Param.send, paramSetSend, int32ToMavlinkFloat, pack, pack_unpackFloat]
  | float value =>
    obtain ⟨word, pack⟩ := Option.isSome_iff_exists.mp proper.1.2
    simp [Param.send, floatParamSetSend, pack]

theorem held_of_send {p : Param} {msg : ParamSet} {word : BitVec 32} (plain : p.Plain)
    (send : p.send = some msg) (held : p.Held word) : p.Held msg.paramValue := by
  obtain ⟨name, value⟩ := p
  cases value with
  | int value =>
    obtain ⟨bits, sent, pack, wire, rfl⟩ := paramSetSend_some send
    obtain ⟨same, value_back⟩ := packInt_some pack
    have number : NotNan bits := same ▸ plain.2
    rw [pack_unpackFloat, quieted_self number, Option.some.injEq] at wire
    rw [Param.Held, ← wire]
    exact value_back
  | float value =>
    obtain ⟨sent, pack, rfl⟩ := floatParamSetSend_some send
    obtain ⟨stored, asked, number, wanted, close⟩ := held
    obtain ⟨_, _, _, _, packed⟩ := number_of_pack wanted pack
    exact ⟨_, asked, packed, wanted, (pack_nearest wanted pack packed number).trans close⟩

/-- A report is of the word PX4 started with or of the word sent. -/
def Param.Genuine (p : Param) (start word : BitVec 32) : Prop :=
  word = start ∨ ∃ msg, p.send = some msg ∧ msg.paramValue = word

theorem notNan_of_genuine {name : String} {value : PyFloat} {start word : BitVec 32}
    (proper : Param.Proper ⟨name, .float value⟩ start)
    (genuine : Param.Genuine ⟨name, .float value⟩ start word) : NotNan word := by
  obtain ⟨⟨number, _⟩, clean⟩ := proper
  rcases genuine with rfl | ⟨msg, send, rfl⟩
  · exact clean
  · obtain ⟨asked, wanted⟩ := Option.isSome_iff_exists.mp number
    obtain ⟨sent, pack, rfl⟩ := floatParamSetSend_some send
    obtain ⟨_, _, _, _, packed⟩ := number_of_pack wanted pack
    exact (number_unpackFloat.mp packed).1.le

theorem held_of_confirm {p : Param} {start word : BitVec 32} {name : String} (plain : p.Plain)
    (proper : p.Proper start)
    (accepted : (p.confirm (some ⟨name, unpackFloat word⟩)).1 = true)
    (genuine : name = p.name → p.Genuine start word) : name = p.name ∧ p.Held word := by
  obtain ⟨asked, value⟩ := p
  cases value with
  | int value =>
    simp only [Param.confirm, confirmParam] at accepted
    split_ifs at accepted with differs
    obtain ⟨same, decoded⟩ := not_or.mp differs
    exact ⟨not_not.mp same, held_of_decoded plain.2 (not_not.mp decoded)⟩
  | float value =>
    simp only [Param.confirm, confirmFloatParam] at accepted
    split_ifs at accepted with differs
    obtain ⟨same, close⟩ := not_or.mp differs
    have named := not_not.mp same
    have clean := notNan_of_genuine proper (genuine named)
    obtain ⟨wanted, number⟩ := Option.isSome_iff_exists.mp proper.1.1
    obtain ⟨stored, shown, near⟩ :=
      near_of_not_exceeds number (unpackFloat_ne_nan clean) (Bool.not_eq_true _ ▸ close)
    exact ⟨named, stored, wanted, shown, number, near⟩

end SetLocalizationSource
