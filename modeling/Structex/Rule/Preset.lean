import Structex.Rule.Definition

/-!
# Ready-made rules

Definitions for common jobs: a log of every document, the first mail address of a payload, and an
index of the payloads that a pattern matches.
-/

namespace Structex.Preset

/-- The pattern of a mail address. -/
def mailSource : String :=
  "([a-zA-Z0-9._%+-]+@[a-zA-Z0-9.-]+\\.[a-zA-Z]\x7b2,\x7d)"

/-- A mapping from texts to texts. -/
private def texts (entries : List (String × String)) : Value :=
  .map (entries.map fun entry => (.str entry.1, .str entry.2))

/-- The glob that watches everything. -/
def everything : Value := .str "/**"

/-- Logs every document under the watched keys. -/
def logger (watch : Value) : RuleDefinition where
  name := .str "logger"
  watch := watch
  emit := .str "log/write@v1"
  emitPath := .str "/logs/$\x7buuid\x7d"
  template := texts [("path", "$\x7binput\x7d"), ("timestamp", "$\x7buuid\x7d")]

/-- Takes the first mail address out of a payload. -/
def mailExtractor (watch : Value) : RuleDefinition where
  name := .str "email-extractor"
  watch := watch
  emit := .str "extracted/email@v1"
  emitPath := .str "/extracted/emails/$\x7buuid\x7d"
  template := texts [("email", "$\x7b1\x7d"), ("source", "$\x7bpath.0\x7d/$\x7bpath.1\x7d")]
  extract := .str mailSource

/-- Indexes the documents whose payload a pattern matches, under the pattern's own source. -/
def typeIndex (filter watch : Value) : RuleDefinition where
  name := .str ("index-" ++ filter.plain)
  watch := watch
  emit := .str ("index/" ++ filter.plain ++ "@v1")
  emitPath := .str ("/indexes/" ++ filter.plain ++ "/$\x7buuid\x7d")
  template := texts [("path", "$\x7bpath.0\x7d/$\x7bpath.1\x7d"), ("data", "$\x7binput\x7d")]
  guard := filter

end Structex.Preset
