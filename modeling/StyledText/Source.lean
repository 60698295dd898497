/-!
# Source texts

Runs of text are cut from source texts.  A source is either a fixed string or a builder, whose text
can be edited at any time.  Sources are told apart by identity and not by content: each one made is
new, even if it holds the same characters as another.

A `Source` is an identity.  The `SourceStore` knows the present content of every source, and a
`SourceRegistry` gives dense indices to the sources registered in it, the same index to the same
source each time.  Edits go to the store, so they show through every registry and move no index.
-/

namespace StyledText

/-- The identity of a source text. -/
inductive Source where
  /-- A fixed text, the `number`-th made. -/
  | string (number : Nat)
  /-- An editable text, the `number`-th made. -/
  | builder (number : Nat)
deriving DecidableEq, Repr

/-- Whether a source can be edited. -/
def Source.isBuilder : Source → Bool
  | .string _ => false
  | .builder _ => true

/-- The present contents of all sources. -/
structure SourceStore where
  /-- The fixed texts, in the order in which they were made. -/
  strings : List String := []
  /-- The editable texts, in the order in which they were made. -/
  builders : List String := []
deriving DecidableEq, Repr

namespace SourceStore

/-- Makes a fixed text: its identity, and the store after. -/
def newString (s : SourceStore) (text : String) : Source × SourceStore :=
  (.string s.strings.length, { s with strings := s.strings ++ [text] })

/-- Makes an editable text: its identity, and the store after. -/
def newBuilder (s : SourceStore) (text : String) : Source × SourceStore :=
  (.builder s.builders.length, { s with builders := s.builders ++ [text] })

/-- The present text of a source; a source that was never made has none. -/
def text? (s : SourceStore) : Source → Option String
  | .string number => s.strings[number]?
  | .builder number => s.builders[number]?

/-- The present text of a source, empty if it was never made. -/
def text (s : SourceStore) (source : Source) : String := (s.text? source).getD ""

/-- Edits the text of a builder.  Fixed texts stay as they are. -/
def edit (s : SourceStore) (source : Source) (f : String → String) : SourceStore :=
  match source with
  | .string _ => s
  | .builder number => { s with builders := s.builders.modify number f }

end SourceStore

/-- Sources with dense indices, in the order of first registration. -/
structure SourceRegistry where
  /-- The sources; the position is the index. -/
  sources : List Source := []
deriving DecidableEq, Repr

namespace SourceRegistry

def empty : SourceRegistry := {}

instance : EmptyCollection SourceRegistry := ⟨empty⟩

instance : Inhabited SourceRegistry := ⟨empty⟩

def size (r : SourceRegistry) : Nat := r.sources.length

def isEmpty (r : SourceRegistry) : Bool := r.sources.isEmpty

def get? (r : SourceRegistry) (index : Nat) : Option Source := r.sources[index]?

def indexOf? (r : SourceRegistry) (source : Source) : Option Nat := r.sources.idxOf? source

/-- Registers a source: its index, and the registry after.  A registered source keeps its index. -/
def register (r : SourceRegistry) (source : Source) : Nat × SourceRegistry :=
  match r.indexOf? source with
  | some index => (index, r)
  | none => (r.size, ⟨r.sources ++ [source]⟩)

end SourceRegistry

end StyledText
