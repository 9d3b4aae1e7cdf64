import Wiring.Proofs.Injection.Outcomes
import Wiring.Proofs.Object.Accessor
import Wiring.Proofs.Sample

/-!
# One value for everybody

A typed injection leaves members of other types out of its plan.  An injection of
resources plans them as well, and when every name stands for one and the same value
they refuse it one by one.  Both ways come to the same object and bind the same
members; the second only has more to say about what it skipped.
-/

namespace Wiring

namespace Report

variable {target : String} {outcomes : List Outcome} {keep : Binding → Bool}

end Report

section

variable {injector : Injector} {object : Instance} {value : Value} {bindings : List Binding}

end

/-! ## A reader of texts and counts

A reader extends a source that no way leads to. -/

namespace Reader

open Sample (text count marked stored)

def source : Declaration where
  key := 0
  name := "Source"
  type := ⟨"Source"⟩
  fields := [stored "resource" .field "title" ⟨"Source"⟩]

/-- Captions are refused, and nothing can set a limit. -/
def reader : Declaration where
  key := 1
  name := "Reader"
  type := ⟨"Reader"⟩
  fields :=
    [stored "resource" .field "label" ⟨"Reader"⟩,
      (marked "resource" .field "size" count).stored ⟨"Reader"⟩ none]
  setters :=
    [(marked "resource" .setter "setCaption" text).stored ⟨"Reader"⟩
        (some { reason := "sealed" }),
      marked "resource" .setter "setLimit" count]

def lineage : Lineage := .child reader Upcast.nowhere (.root source)

def injector : Injector := ⟨"resource", { distinctNames := true }⟩

theorem stores_reader : reader.Stores :=
  Declaration.stores_of_lists
    (List.forall_mem_cons.mpr ⟨Member.stores_stored _ _ _,
      List.forall_mem_singleton.mpr (Member.stores_stored _ _ _)⟩)
    (List.forall_mem_cons.mpr ⟨Member.stores_stored _ _ _,
      List.forall_mem_singleton.mpr (Member.stores_of_inaccessible rfl)⟩)

theorem stores_lineage : lineage.Stores :=
  Lineage.stores_child stores_reader
    (Lineage.stores_root (Declaration.stores_of_lists
      (List.forall_mem_singleton.mpr (Member.stores_stored _ _ _)) (List.forall_mem_nil _))) _

end Reader

end Wiring
