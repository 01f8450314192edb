import KeyedFilter.Request.Reading

/-!
# Discovery of requests

Requests are often fragments of larger documents. A fragment is a mapping that has a mapping under
the key `filter`, at any depth. All fragments are read in order, an outer one before those inside
it, and the first that cannot be read fails the whole search.
-/

namespace KeyedFilter

/-- The containers with an accepted child, for a comparator without a state. -/
def Outline.containers {κ ν : Type} (accepts : Option κ → ν → Bool) (outline : Outline κ ν) :
    List ν :=
  let search : StateM Unit (List ν) :=
    outline.collect fun key child _ => return accepts key child
  (search.run ()).1

/-- Reads every fragment; a refusal becomes an error of the request. -/
def readFragments {ν : Type} (dialect : Dialect) (decode : ν → Except Refusal Request)
    (fragments : List ν) : Except FilterError (List Request) :=
  fragments.mapM fun fragment =>
    (decode fragment).mapError fun refusal => .invalidParams (refusal.message dialect)

/-- Is this the filter entry of a JSON fragment? -/
def Json.isFilterEntry (key : Option String) (value : Json) : Bool :=
  key == some "filter" && value.isObject

/-- The requests in a JSON document. -/
def Json.requests (json : Json) : Except FilterError (List Request) :=
  readFragments .json Request.decodeJson (json.outline.containers Json.isFilterEntry)

/-- Is this the filter entry of a YAML fragment? The key must be the plain text; the mapping may be
tagged. -/
def Yaml.isFilterEntry (key : Option Yaml) (value : Yaml) : Bool :=
  key.any (Yaml.same (.string "filter")) && value.entries?.isSome

/-- The requests in a YAML document. -/
def Yaml.requests (yaml : Yaml) : Except FilterError (List Request) :=
  readFragments .yaml Request.decodeYaml (yaml.outline.containers Yaml.isFilterEntry)

end KeyedFilter
