/-!
# Accessors

An accessor gives a record's node id by projecting one field. It is written as an implementation of
one trait with one method; node ids are copied, so the field is not borrowed.
-/

namespace NodeIdGen.Generate

/-- An accessor: the record, and the field that it projects. -/
structure Accessor where
  record : String
  field : String
  deriving DecidableEq, Repr

def accessorTrait : String := "GetNodeId"

def accessorMethod : String := "get_node_id"

def nodeIdType : String := "NodeId"

namespace Accessor

def lines (a : Accessor) : List (List Char) :=
  ["impl ".toList ++ accessorTrait.toList ++ " for ".toList ++ a.record.toList ++ " \x7b".toList,
   "    fn ".toList ++ accessorMethod.toList ++ "(&self) -> ".toList ++ nodeIdType.toList ++
     " \x7b".toList,
   "        self.".toList ++ a.field.toList,
   "    \x7d".toList,
   "\x7d".toList]

/-- An accessor as text, whose last line ends like the others. -/
def chars (a : Accessor) : List Char :=
  a.lines.flatMap (· ++ ['\n'])

def render (a : Accessor) : String :=
  String.ofList a.chars

end Accessor

end NodeIdGen.Generate
