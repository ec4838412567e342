import ObjectBridge.Toml.Reader
import ObjectBridge.Toml.Writer

/-!
# The library of documents

A configuration is stored and loaded by a library that it does not look into: one function reads
the text of a document, the other writes it.  The reader and the writer of this project are such a
library, and the one that the program runs with.

Main results:

- Definition `Toml.Library`: what a library of documents offers.
-/

namespace ObjectBridge.Toml

/-- A library of documents. -/
class Library where
  /-- The document of a text, if it is the text of one. -/
  read : String → Option Table
  /-- The text of a document. -/
  write : Table → String

/-- The reader and the writer of this project. -/
instance : Library where
  read := read
  write := write

end ObjectBridge.Toml
