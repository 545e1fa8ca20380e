import Metaobject.Config.Yaml.Cursor

/-!
# Tokens

The tokens of a text: its scalars, the marks around and between its collections, and the beginnings
and ends of blocks, which only the columns show.
-/

namespace Metaobject.Config.Yaml

/-- A token. -/
inductive Token where
  /-- Says which version of the format a document has. -/
  | version
  /-- Says for what the handle of tags stands. -/
  | tagHandle (handle namespaceText : String)
  | documentStart
  | documentEnd
  | blockSequence
  | blockMapping
  | blockEnd
  | flowSequence
  | flowSequenceEnd
  | flowMapping
  | flowMappingEnd
  /-- The dash before an item of a block sequence. -/
  | blockEntry
  | flowEntry
  | key
  | value
  /-- Gives a name to the node that follows. -/
  | anchor (name : String)
  /-- Stands for the node of that name. -/
  | alias (name : String)
  | tag (handle suffix : String)
  /-- A scalar, which is plain if it has neither quotes nor a block of its own. -/
  | scalar (plain : Bool) (text : String)
deriving DecidableEq

end Metaobject.Config.Yaml
