import Mathlib.Data.String.Basic
import Router.Metrics

/-!
# The tally of an interface

The tallies of interfaces are kept by ascending name. An interface has the tally under its name, and one that nothing
went through yet has none (`tally`). Main statement: to change the tally of one interface changes no other
(`tally_onInterface`).
-/

namespace Router.Metrics

/-- The tally under a name in a list by ascending name. -/
def tallyOf (name : String) : List (String × InterfaceTally) → InterfaceTally
  | [] => .zero
  | entry :: rest =>
    if name = entry.1 then entry.2
    else if name < entry.1 then .zero
    else tallyOf name rest

/-- The tally of an interface. -/
def tally (m : Metrics) (name : String) : InterfaceTally :=
  tallyOf name m.interfaces

variable {m : Metrics} {name other : String} {t : InterfaceTally} {f : InterfaceTally → InterfaceTally}

theorem tallyOf_of_mem {interfaces : List (String × InterfaceTally)}
    (h : interfaces.Pairwise fun a b => a.1 < b.1) (hmem : (name, t) ∈ interfaces) : tallyOf name interfaces = t := by
  induction interfaces with
  | nil => cases hmem
  | cons entry rest ih =>
    obtain ⟨hentry, hrest⟩ := List.pairwise_cons.1 h
    rw [tallyOf]
    rcases List.mem_cons.1 hmem with rfl | hmem
    · exact if_pos rfl
    · have hlt := hentry _ hmem
      rw [if_neg hlt.ne', if_neg hlt.not_gt, ih hrest hmem]

/-- An interface that is listed has the tally that stands there. -/
theorem tally_of_mem (h : m.interfaces.Pairwise fun a b => a.1 < b.1) (hmem : (name, t) ∈ m.interfaces) :
    m.tally name = t :=
  tallyOf_of_mem h hmem

theorem tallyOf_updateInterface_self (name : String) (interfaces : List (String × InterfaceTally)) :
    tallyOf name (updateInterface name f interfaces) = f (tallyOf name interfaces) := by
  induction interfaces with
  | nil => simp [updateInterface, tallyOf]
  | cons entry rest ih =>
    rw [updateInterface]
    split
    · rename_i hname
      simp [tallyOf, ← hname]
    · rename_i hname
      split
      · rename_i hlt
        simp [tallyOf, hname, hlt]
      · rename_i hlt
        rw [tallyOf, if_neg hname, if_neg hlt, ih, tallyOf, if_neg hname, if_neg hlt]

theorem tallyOf_updateInterface_of_ne (hne : other ≠ name) (interfaces : List (String × InterfaceTally)) :
    tallyOf other (updateInterface name f interfaces) = tallyOf other interfaces := by
  induction interfaces with
  | nil => simp [updateInterface, tallyOf, hne]
  | cons entry rest ih =>
    rw [updateInterface]
    split
    · rename_i hname
      rw [tallyOf, tallyOf, ← hname, if_neg hne, if_neg hne]
    · split
      · rename_i hlt
        rw [tallyOf, if_neg hne]
        split
        · -- The new entry comes first, and the name would have been missed as early as that before.
          rename_i hother
          rw [tallyOf, if_neg (hother.trans hlt).ne, if_pos (hother.trans hlt)]
        · rfl
      · rw [tallyOf, tallyOf, ih]

/-- To change the tally of an interface changes no other. -/
theorem tally_onInterface (m : Metrics) (name other : String) (f : InterfaceTally → InterfaceTally) :
    (m.onInterface name f).tally other = if other = name then f (m.tally name) else m.tally other := by
  split
  · rename_i hname
    rw [hname]
    exact tallyOf_updateInterface_self name m.interfaces
  · rename_i hname
    exact tallyOf_updateInterface_of_ne hname m.interfaces

end Router.Metrics
