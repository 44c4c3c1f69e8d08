import Bringup.Spec.Index
import Bringup.Text.Order

/-!
# Collection declarations

* `CollectionSpec` : a collection and its indexes;
* `CollectionSpec.check` : such a declaration from a value; its indexes have names of their own.
-/

namespace Bringup

/-- A declared collection. -/
structure CollectionSpec where
  name : String
  indexes : List IndexSpec
  deriving DecidableEq, Repr

namespace CollectionSpec

/-- The texts that come more than once, in order and each once. -/
def repeated (texts : List String) : List String :=
  sortTexts (texts.filter fun s => 1 < texts.count s).eraseDups

/-- The reason to refuse a collection whose indexes share a name. -/
def sharedNames? (c : CollectionSpec) : Option String :=
  let names := repeated (c.indexes.map IndexSpec.indexName)
  if names.isEmpty then none
  else
    some (s!"Collection '{c.name}' declares index names more than once: " ++ ", ".intercalate names)

/-- A collection declaration from a value. -/
def check : Value → Checked CollectionSpec :=
  Check.model "CollectionSpec" fun fields =>
    (CollectionSpec.mk
      <$> Check.required "name" Check.filledText fields
      <*> Check.optional "indexes" [] (Check.list IndexSpec.check) fields).refine sharedNames?

end CollectionSpec

end Bringup
