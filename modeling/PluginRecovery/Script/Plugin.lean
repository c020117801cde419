import PluginRecovery.Script.ClassProperties
import PluginRecovery.Script.Declaration
import PluginRecovery.Script.Metadata

/-!
A plugin script as far as it is understood: its metadata, its functions and the properties of its
class.
-/

set_option autoImplicit false
set_option relaxedAutoImplicit false

namespace PluginRecovery.Script

structure Plugin where
  metadata : Option ObjectLiteral
  functions : Dictionary Declaration
  classProperties : Properties

namespace Plugin

/-- Find the parts in text without comments. -/
def ofCode (code : List Char) : Traced Plugin := do
  let metadata ← metadataChain.resolve code
  return {
    metadata := metadata.toOption
    functions := declarations code
    classProperties := Script.classProperties code }

/-- Find the parts of a script. Offsets are those in the text without comments. -/
def parse (source : List Char) : Traced Plugin :=
  ofCode (stripComments source)

/-- Whether the parse of a script comes to an end: there are texts that would be read for ever. -/
def ends (source : List Char) : Bool :=
  let code := stripComments source
  metadataEnds code && classPropertiesEnd code

/-- The parts of a script, if the parse comes to an end. -/
def parse? (source : List Char) : Option (Traced Plugin) :=
  if ends source then some (parse source) else none

/-- The first of the candidate names that names a function. -/
def firstFunction? (plugin : Plugin) (candidates : List String) : Option Declaration :=
  candidates.findSome? fun name => Dictionary.get? plugin.functions name

/-- The class's properties, under those of the metadata object. -/
def mergedProperties (plugin : Plugin) : Properties :=
  match plugin.metadata with
  | none => plugin.classProperties
  | some literal => Dictionary.overlay plugin.classProperties literal.properties

def declarationToJson (d : Declaration) : Json :=
  .obj [
    ("name", .text d.name),
    ("params", Json.list .text d.params),
    ("body", .text d.body),
    ("is_async", .bool d.isAsync),
    ("start_index", .int d.start),
    ("end_index", Json.ofOption (fun stop : Nat => .int stop) d.stop)]

def propertiesToJson (properties : Properties) : Json :=
  .object (Value.entriesToJson properties)

def literalToJson (literal : ObjectLiteral) : Json :=
  .obj [
    ("properties", propertiesToJson literal.properties),
    ("start_index", .int literal.start),
    ("end_index", .int literal.stop)]

def toJson (plugin : Plugin) : Json :=
  .obj [
    ("metadata", Json.ofOption literalToJson plugin.metadata),
    ("functions", .obj (plugin.functions.map fun (name, d) => (name, declarationToJson d))),
    ("class_properties", propertiesToJson plugin.classProperties)]

end Plugin

end PluginRecovery.Script
