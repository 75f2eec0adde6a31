import Persistence.DataType.Basic

/-!
What the metamodel reports while entities are initialized, and the lines in which it is reported.
-/

namespace Persistence

/-- What is reported while entities are initialized. -/
inductive Diagnostic where
  | initializing (entity : String)
  | initialized (entity : String)
  | versionMissing (entity : String)
  | versionIncompatible (entity : String) (type : DataType)
  | traitFieldMissing (entity : String) (property : String) (field : String)
  | compiled (entity : String) (properties : Nat) (tracksChanges : Bool)
deriving DecidableEq, Inhabited, Repr

/-- The line that a report is noted as. -/
def Diagnostic.line : Diagnostic → String
  | .initializing entity => s!"SPAN entity.initialize entity={entity}"
  | .initialized entity => s!"DEBUG entity initialized entity={entity}"
  | .versionMissing entity => s!"DEBUG no version property, versioning disabled entity={entity}"
  | .versionIncompatible entity type =>
    s!"DEBUG version property type is not version compatible, versioning disabled entity={entity} " ++
      s!"data_type={type.display}"
  | .traitFieldMissing entity property field =>
    s!"DEBUG trait field not found, using accessor methods entity={entity} property={property} field={field}"
  | .compiled entity properties tracksChanges =>
    s!"DEBUG compiled entity reflector entity={entity} properties={properties} dirty_checking={tracksChanges}"

end Persistence
