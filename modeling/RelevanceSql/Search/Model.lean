import RelevanceSql.Config.Spec

/-!
# Searchable tables

A table with its primary key and the specification of what is searched in it.
-/

namespace RelevanceSql

/-- The key of a table that does not say otherwise. -/
def defaultKey : String := "id"

/-- A table, its key, and what of it is searched. -/
structure Model where
  table : String
  key : String := defaultKey
  search : SearchSpec := {}

/-- Changes the key. -/
def Model.withKey (m : Model) (key : String) : Model := { m with key := key }

end RelevanceSql
