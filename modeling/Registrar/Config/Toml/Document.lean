import Registrar.Config.Value

/-! The tables of a TOML document as they are built: which keys are set, and which tables may
still be added to. -/
namespace Registrar.Config.Toml

inductive TableKind where
  | explicit
  | implicit
  | dotted
  deriving DecidableEq, Repr

inductive Item where
  | value (value : Value)
  | table (kind : TableKind) (items : List (String × Item))
  | tables (elements : List (List (String × Item)))

abbrev Items := List (String × Item)

namespace Items

def replace (key : String) (item : Item) (items : Items) : Items :=
  items.map fun (other, old) => (other, if other = key then item else old)

/-- Changes the table at the end of a path of keys; tables that are missing on the way are added.
In an array of tables the way leads through the last one. A value bars the way; a table with its
own header bars it to keys with points. -/
def descend (dotted : Bool) (change : TableKind → Items → Option Items) :
    List String → TableKind → Items → Option Items
  | [], kind, items => change kind items
  | key :: path, _, items =>
    match items.lookup key with
    | none =>
      let kind : TableKind := if dotted then .dotted else .implicit
      (descend dotted change path kind []).map fun inner => items ++ [(key, .table kind inner)]
    | some (.value _) => none
    | some (.tables elements) =>
      elements.getLast?.bind fun last =>
        (descend dotted change path .explicit last).map fun inner =>
          replace key (.tables (elements.dropLast ++ [inner])) items
    | some (.table kind inner) =>
      if dotted ∧ kind = .explicit then none
      else (descend dotted change path kind inner).map fun inner =>
        replace key (.table kind inner) items

/-- Sets a key with points in a table. Only tables made by such keys are added to, and no key is
set twice. -/
def insert (path : List String) (key : String) (value : Value) (items : Items) : Option Items :=
  descend true (fun kind items =>
    if path ≠ [] ∧ kind ≠ .dotted then none
    else if (items.lookup key).isSome then none
    else some (items ++ [(key, .value value)])) path .explicit items

/-- Opens the table of a header. It must be new, or known only from the tables inside it. -/
def openTable (path : List String) (key : String) (items : Items) : Option Items :=
  descend false (fun _ items =>
    match items.lookup key with
    | none => some (items ++ [(key, .table .explicit [])])
    | some (.table .implicit inner) => some (replace key (.table .explicit inner) items)
    | some _ => none) path .explicit items

def openElement (path : List String) (key : String) (items : Items) : Option Items :=
  descend false (fun _ items =>
    match items.lookup key with
    | none => some (items ++ [(key, .tables [[]])])
    | some (.tables elements) => some (replace key (.tables (elements ++ [[]])) items)
    | some _ => none) path .explicit items

end Items

mutual

def Item.toValue (origin : Origin) : Item → Value
  | .value value => value
  | .table _ items => .table origin (Items.toFields origin items)
  | .tables elements => .list origin (Items.toValues origin elements)

def Items.toFields (origin : Origin) : Items → Fields
  | [] => []
  | (key, item) :: rest => Fields.set key (Item.toValue origin item) (Items.toFields origin rest)

def Items.toValues (origin : Origin) : List Items → List Value
  | [] => []
  | items :: rest => .table origin (Items.toFields origin items) :: Items.toValues origin rest

end

end Registrar.Config.Toml
