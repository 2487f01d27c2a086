import Mathlib.Logic.Basic

namespace Dynaxis.Shared.ReverseIndex

universe u v w

variable {Member : Type u} {Handle : Type v} {Key : Type w}

section

variable (alive : Member -> Prop) (handle : Member -> Handle)

def Agrees (listed : Key -> Member -> Prop) (current : Handle -> Option Key) : Prop :=
 ∀ member, alive member -> ∀ key, listed key member ↔ current (handle member) = some key

def Separate : Prop :=
 ∀ first second, alive first -> alive second -> handle first = handle second -> first = second

end

variable {alive alive' : Member -> Prop} {handle : Member -> Handle}
 {listed listed' : Key -> Member -> Prop} {current current' : Handle -> Option Key} {member : Member}
 (agrees : Agrees alive handle listed current)
include agrees

theorem Agrees.unique (present : alive member) {first second : Key}
  (inFirst : listed first member) (inSecond : listed second member) : first = second := by
 have one := (agrees member present first).mp inFirst
 have two := (agrees member present second).mp inSecond
 rw [one] at two
 exact Option.some.inj two

theorem Agrees.move (separate : Separate alive handle)
  (present : alive member) (target : Option Key) (own : ∀ key, listed' key member ↔ target = some key)
  (others : ∀ other, alive other -> other ≠ member -> ∀ key, listed' key other ↔ listed key other)
  (ownHandle : current' (handle member) = target)
  (otherHandles : ∀ other, other ≠ handle member -> current' other = current other) :
  Agrees alive handle listed' current' := by
 intro other living key
 by_cases same : other = member
 · subst same
   rw [own key, ownHandle]
 · have distinct : handle other ≠ handle member := fun shared => same (separate other member living present shared)
   rw [others other living same key, otherHandles _ distinct]
   exact agrees other living key

theorem Agrees.merge {source target : Key} (distinct : target ≠ source) (moved : ∀ member, alive member -> ∀ key,
    listed' key member ↔ key ≠ source /\ (listed key member \/ key = target /\ listed source member))
  (inSource : ∀ member, alive member -> listed source member -> current' (handle member) = some target)
  (elsewhere : ∀ member, alive member -> ¬ listed source member ->
    current' (handle member) = current (handle member)) : Agrees alive handle listed' current' := by
 intro member present key
 rw [moved member present key]
 by_cases inside : listed source member
 · rw [inSource member present inside]
   constructor
   · rintro ⟨off, here | ⟨rfl, -⟩⟩
     · exact absurd (agrees.unique present here inside) off
     · rfl
   · intro reached
     cases reached
     exact ⟨distinct, Or.inr ⟨rfl, inside⟩⟩
 · rw [elsewhere member present inside, <- agrees member present key]
   constructor
   · rintro ⟨-, here | ⟨-, there⟩⟩
     · exact here
     · exact absurd there inside
   · intro here
     refine ⟨?_, Or.inl here⟩
     rintro rfl
     exact inside here

theorem Agrees.same (narrower : ∀ member, alive' member -> alive member)
  (sameListed : ∀ member, alive' member -> ∀ key, listed' key member ↔ listed key member)
  (sameCurrent : ∀ member, alive' member -> current' (handle member) = current (handle member)) :
  Agrees alive' handle listed' current' := by
 intro member present key
 rw [sameListed member present key, sameCurrent member present]
 exact agrees member (narrower member present) key

omit agrees

end Dynaxis.Shared.ReverseIndex
