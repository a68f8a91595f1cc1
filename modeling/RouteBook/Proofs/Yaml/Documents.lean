import RouteBook.Proofs.Json.Documents
import RouteBook.Proofs.Yaml.Shaped
import RouteBook.Yaml.Documents
/-!
# Documents: documentation is read back from YAML

* `Documentation.listOfYaml_listToYaml`: documentation is read back as it was, and so it is the same
  that is read from JSON.
-/

namespace RouteBook.Documentation

/-- Whatever the texts of any documentation look like, it is read back from YAML as it was, in its order
and with nothing left out. From JSON the same documentation is read. -/
theorem listOfYaml_listToYaml (ds : List Documentation) :
    listOfYaml (listToYaml ds) = .ok ds ∧ listOfJson (listToJson ds) = listOfYaml (listToYaml ds) := by
  have hshaped : (ds.map toShaped).map ofShaped = ds :=
    Function.LeftInverse.list_map ofShaped_toShaped ds
  have hyaml : listOfYaml (listToYaml ds) = .ok ds := by
    rw [listOfYaml, listToYaml, Yaml.decodeOrFault, Yaml.decode_encode legible_listShape.succ]
    exact congrArg Except.ok hshaped
  have hjson : listOfJson (listToJson ds) = .ok ds := by
    rw [listOfJson, listToJson, Json.decodeOrFault, Json.decode_pretty legible_listShape]
    exact congrArg Except.ok hshaped
  exact ⟨hyaml, hjson.trans hyaml.symm⟩

end RouteBook.Documentation
