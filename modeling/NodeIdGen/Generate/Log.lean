import NodeIdGen.Schema.Declaration
import NodeIdGen.Text.Quoted

/-!
# The log

Events are what a run tells about its decisions. Each has a level, and a target, which is the part
of the program that tells it; by these a filter lets it through to the log or not.
-/

namespace NodeIdGen.Generate

open NodeIdGen.Schema

/-- How important an event is, from the most to the least. -/
inductive Level
  | error
  | warn
  | info
  | debug
  | trace
  deriving DecidableEq, Repr

inductive Event
  /-- A source was read. -/
  | sourceLoaded (declarations : Nat)
  /-- A document was read. -/
  | documentLoaded (declarations : Nat)
  /-- A declaration is no record. -/
  | skipped (decl : String) (kind : Kind)
  /-- A record has no node id. -/
  | noNodeId (decl : String)
  /-- A field is a record's node id. -/
  | resolved (decl field : String)
  /-- A record's node id cannot be told. -/
  | ambiguous (decl message : String)
  /-- All declarations were looked at. -/
  | generated (declarations records accessors : Nat)
  /-- The output was written. -/
  | written (out : String) (bytes : Nat)
  /-- The output is as it should be. -/
  | upToDate (out : String)
  deriving DecidableEq, Repr

namespace Level

def all : List Level :=
  [error, warn, info, debug, trace]

def rank : Level → Nat
  | error => 1
  | warn => 2
  | info => 3
  | debug => 4
  | trace => 5

/-- The name at the start of a line. -/
def label : Level → String
  | error => "ERROR"
  | warn => "WARN"
  | info => "INFO"
  | debug => "DEBUG"
  | trace => "TRACE"

end Level

namespace Event

def level : Event → Level
  | sourceLoaded _ | documentLoaded _ | skipped _ _ | noNodeId _ | resolved _ _ | upToDate _ =>
    .debug
  | ambiguous _ _ => .error
  | generated _ _ _ | written _ _ => .info

/-- The part of the program that tells an event. -/
def target : Event → String
  | sourceLoaded _ | documentLoaded _ => "astgen_core::frontend"
  | skipped _ _ | noNodeId _ | resolved _ _ | ambiguous _ _ | generated _ _ _ =>
    "astgen_core::generate"
  | written _ _ | upToDate _ => "astgen"

/-- An event in words, with what it is about. -/
def text : Event → String
  | sourceLoaded n => "schema parsed declarations=" ++ toString n
  | documentLoaded n => "schema JSON loaded declarations=" ++ toString n
  | skipped decl kind =>
    "skipped: not a record decl=" ++ Text.quoted decl ++ " kind=" ++ Text.quoted kind.name
  | noNodeId decl => "no node id decl=" ++ decl
  | resolved decl field =>
    "node id field resolved decl=" ++ decl ++ " field=" ++ Text.quoted field
  | ambiguous decl message => message ++ " decl=" ++ decl
  | generated declarations records accessors =>
    "node id accessors generated declarations=" ++ toString declarations ++ " records=" ++
      toString records ++ " accessors=" ++ toString accessors
  | written out bytes => "output written out=" ++ out ++ " bytes=" ++ toString bytes
  | upToDate out => "output up to date out=" ++ out

def line (e : Event) : String :=
  e.level.label ++ " " ++ e.text

end Event

end NodeIdGen.Generate
