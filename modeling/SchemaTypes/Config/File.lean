import SchemaTypes.Config.Value

set_option autoImplicit false

/-! # What a config file does

A config file is run for the configuration that it defines. What matters of it is what running it
comes to.
-/

namespace SchemaTypes

/-- What running a config file comes to. -/
inductive ConfigScript where
  /-- It gives the configuration as a value, which is validated afterwards. -/
  | value (config : Value)
  /-- It builds the configuration from fields, which are validated while the file runs. -/
  | define (fields : List (String × Value))
  /-- It defines no configuration. -/
  | absent
  /-- It raises an exception by name, with a text. -/
  | raises (name text : String)

/-- What a file holds: text, or a script that can be run for a configuration. -/
inductive FileContent where
  | text (content : String)
  | script (script : ConfigScript)

namespace FileContent

/-- The first bytes of a file, by which it is told whether it is a compiled script. Scripts start
with their imports. -/
def start : FileContent → List UInt8
  | .text content => content.toUTF8.toList.take 4
  | .script _ => "impo".toUTF8.toList

/-- A file as a script. A text is taken for a script that runs and defines nothing. Whether a text
can be run at all is left out: running one that cannot would be reported as a failure to load it. -/
def asScript : FileContent → ConfigScript
  | .text _ => .absent
  | .script s => s

end FileContent

end SchemaTypes
