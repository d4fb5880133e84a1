/-! YAML values: scalars, lists and maps. -/

namespace CrossStitch

inductive Yaml
  /-- A scalar, and whether it was written without quotes. -/
  | scalar (text : String) (plain : Bool)
  | list (items : List Yaml)
  /-- The entries in order, with keys that may repeat. -/
  | map (entries : List (Yaml × Yaml))

/-- What stands where nothing is written. -/
def Yaml.nothing : Yaml := .scalar "" true

end CrossStitch
