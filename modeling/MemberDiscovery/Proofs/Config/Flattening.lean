import MemberDiscovery.Proofs.Config.JsonLeaves
import MemberDiscovery.Proofs.Config.YamlLeaves

/-! # What flattening keeps

Flattening a JSON or a YAML value keeps its leaves and nothing else. Main statement: a key of the
flat set is the joined path to a leaf, its value is the text of the last such leaf, flattening fails
only for keys that have no text, and no leaf is lost unless keys have dots in them or repeat
(`flattening_keeps_leaves`).
-/

namespace MemberDiscovery

/-- Flattening keeps exactly the leaves below keys. A key of the flat set is the joined path to a
leaf and stands for the last such leaf, in the order of the keys of an object and in the order of
the entries of a mapping. Mappings whose keys have no texts are not flattened. No leaf is lost if no
key has a dot in it and the keys of each mapping differ. -/
theorem flattening_keeps_leaves :
    (∀ text value, Json.parse? text = some value → value.Ascending) ∧
    (∀ value : Json,
      (∀ key text, (PropertySet.ofJson value).get? key = some text ↔
        Json.branching.LastLeaf value key text) ∧
      (value.Ascending →
        (∀ places others keys laters text later, Json.branching.LeafAt value places keys text →
          Json.branching.LeafAt value others laters later →
            (places < others ↔ keys < laters)) ∧
        (value.Dotless → Json.branching.LeafCount value (PropertySet.ofJson value).size))) ∧
    ∀ value : Yaml,
      ((∃ error, PropertySet.ofYaml value = .error error) ↔ value.HasBadKey) ∧
      ∀ properties, PropertySet.ofYaml value = .ok properties →
        (∀ key text, properties.get? key = some text ↔ Yaml.branching.LastLeaf value key text) ∧
        (value.Dotless → value.Distinct → Yaml.branching.LeafCount value properties.size) := by
  refine ⟨fun _ _ => Json.ascending_of_parse?, fun value => ⟨?_, fun hascending => ⟨?_, ?_⟩⟩,
    fun value => ⟨Yaml.ofYaml_error_iff, fun properties hproperties => ⟨?_, ?_⟩⟩⟩
  · exact fun key text => Json.get?_ofJson_iff value
  · intro places others keys laters text later hleaf hother
    exact Json.places_lt_iff_keys_lt hascending hleaf hother
  · exact Json.leafCount_ofJson hascending
  · exact fun key text => Yaml.get?_ofYaml_iff hproperties
  · exact Yaml.leafCount_ofYaml hproperties

end MemberDiscovery
