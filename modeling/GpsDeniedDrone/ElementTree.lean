import Mathlib.Data.List.Basic

/-!
Element trees as Python's xml.etree.ElementTree reads them: an element has a tag,
attributes, the text before its first child, and children in document order. Elements are
searched for by tag, at any depth or down a path of tags.
-/
namespace ElementTree

inductive Element where
  | mk (tag : String) (attrib : List (String × String)) (text : Option String)
    (children : List Element)

namespace Element

def tag : Element → String
  | mk tag _ _ _ => tag

def get (key : String) : Element → Option String
  | mk _ attrib _ _ => attrib.lookup key

def text : Element → Option String
  | mk _ _ text _ => text

def children : Element → List Element
  | mk _ _ _ children => children

end Element

mutual
/-- `Element.iter(tag)`: the element itself and everything below it, in document order. -/
def Element.iter (tag : String) : Element → List Element
  | .mk here attrib text children =>
    (if here = tag then [.mk here attrib text children] else []) ++ iterAll tag children

def iterAll (tag : String) : List Element → List Element
  | [] => []
  | e :: rest => e.iter tag ++ iterAll tag rest
end

def Element.findall (e : Element) : List String → List Element
  | [] => [e]
  | tag :: path => (e.children.filter fun child => child.tag = tag).flatMap (findall · path)

def Element.find (e : Element) (path : List String) : Option Element := (e.findall path).head?

inductive Inside (d : Element) : Element → Prop where
  | self : Inside d d
  | deeper {e child : Element} (mem : child ∈ e.children) (inside : Inside d child) : Inside d e

theorem mem_iterAll {d : Element} {tag : String} (es : List Element) :
    d ∈ iterAll tag es ↔ ∃ e ∈ es, d ∈ e.iter tag := by
  induction es with
  | nil => simp [iterAll]
  | cons e rest ih => rw [iterAll, List.mem_append, ih, List.exists_mem_cons_iff]

theorem mem_iter {d : Element} {tag : String} (e : Element) :
    d ∈ e.iter tag ↔ Inside d e ∧ d.tag = tag := by
  cases e with
  | mk here attrib text children =>
    have under : d ∈ iterAll tag children ↔ ∃ child ∈ children, Inside d child ∧ d.tag = tag := by
      rw [mem_iterAll]
      exact exists_congr fun child => and_congr_right fun mem => mem_iter child
    rw [Element.iter, List.mem_append, under]
    constructor
    · intro found
      rcases found with top | ⟨child, mem, inside, same⟩
      · split at top
        · rename_i same
          rw [List.mem_singleton] at top
          subst top
          exact ⟨Inside.self, same⟩
        · cases top
      · exact ⟨Inside.deeper mem inside, same⟩
    · intro found
      obtain ⟨inside, same⟩ := found
      cases inside with
      | self =>
        change here = tag at same
        exact Or.inl (by simp [same])
      | deeper mem inside => exact Or.inr ⟨_, mem, inside, same⟩
termination_by sizeOf e
decreasing_by
  have smaller := List.sizeOf_lt_of_mem mem
  subst_vars
  simp only [Element.mk.sizeOf_spec]
  omega

end ElementTree
