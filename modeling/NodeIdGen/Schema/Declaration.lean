import NodeIdGen.Schema.AttrSet

/-!
# Declarations

A schema is a list of declarations: records with their fields, variants with the names of their
alternatives, and flag sets with the names of their flags.
-/

namespace NodeIdGen.Schema

/-- The marker of a field that holds the record's node id. -/
def identifierField : String := "identifier-field"

/-- The marker of a record that is to have no node id. -/
def noIdentifier : String := "no-identifier"

structure Field where
  name : String
  attrs : AttrSet := ∅
  deriving DecidableEq

/-- A product of fields, in the order in which they are declared. -/
structure Record where
  name : String
  attrs : AttrSet := ∅
  fields : List Field := []
  deriving DecidableEq

/-- A sum of alternatives, of which only the names are kept. -/
structure Variant where
  name : String
  attrs : AttrSet := ∅
  variants : List String := []
  deriving DecidableEq

/-- A set of flags, of which only the names are kept. -/
structure FlagSet where
  name : String
  attrs : AttrSet := ∅
  flags : List String := []
  deriving DecidableEq

inductive Declaration
  | record (r : Record)
  | variant (v : Variant)
  | flagSet (f : FlagSet)
  deriving DecidableEq

inductive Kind
  | record
  | variant
  | flagSet
  deriving DecidableEq, Repr

def Kind.name : Kind → String
  | .record => "record"
  | .variant => "variant"
  | .flagSet => "flag_set"

def Field.withAttr (f : Field) (m : String) : Field :=
  { f with attrs := f.attrs.insert m }

def Record.withAttr (r : Record) (m : String) : Record :=
  { r with attrs := r.attrs.insert m }

/-- The record with one more field behind the others. -/
def Record.withField (r : Record) (f : Field) : Record :=
  { r with fields := r.fields ++ [f] }

namespace Declaration

def name : Declaration → String
  | .record r => r.name
  | .variant v => v.name
  | .flagSet f => f.name

def kind : Declaration → Kind
  | .record _ => .record
  | .variant _ => .variant
  | .flagSet _ => .flagSet

end Declaration

end NodeIdGen.Schema
