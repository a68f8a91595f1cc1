import Mathlib.Data.List.Basic
import RouteBook.Json.Documents
import RouteBook.Proofs.Json.Shaped
/-!
# Documents: documentation is read back from JSON

* `Documentation.legible_listShape`: a list of written forms can be told apart once it is written.
* `Documentation.listOfJson_listToJson`: so documentation is read back as it was.
-/

namespace RouteBook.Documentation

theorem legible_listShape : listShape.Legible Json.nestingLimit := by
  have hmethod : ∀ levels, RouteMethod.shape.Legible levels := fun _ => .choice (by decide)
  have htype : ∀ levels, ParameterType.shape.Legible levels := fun _ => .choice (by decide)
  have hspec : ∀ levels, ParameterSpec.shape.Legible (levels + 2) := fun _ =>
    .record (by decide) (.cons .flag (.cons (htype _) (.cons .text (.cons (.list .text) .nil))))
  exact .list (.record (by decide) (.cons .text (.cons .text (.cons (.list (hmethod _))
    (.cons .text (.cons (.table (hspec _)) (.cons .text .nil)))))))

/-- What is written of any documentation is read back as it was, in its order and with nothing left
out; so no other documentation is written alike. -/
theorem listOfJson_listToJson :
    (∀ ds, listOfJson (listToJson ds) = .ok ds) ∧ Function.Injective listToJson := by
  have hread : ∀ ds, listOfJson (listToJson ds) = .ok ds := by
    intro ds
    rw [listOfJson, listToJson, Json.decodeOrFault, Json.decode_pretty legible_listShape]
    show Except.ok ((ds.map toShaped).map ofShaped) = Except.ok ds
    exact congrArg Except.ok (Function.LeftInverse.list_map ofShaped_toShaped ds)
  refine ⟨hread, fun ds ds' h => ?_⟩
  exact Except.ok.inj ((hread ds).symm.trans (h ▸ hread ds'))

end RouteBook.Documentation
