/-
The configuration over time.

A configuration is read from the environment when it is first asked for and kept until
it is replaced or given up. The source parser is made when it is first needed, with the
size limit of that moment, and keeps this limit for good.
-/
import TypeShape.Config.Basic

namespace TypeShape

/-- The environment, the configuration that is kept, and the limit of the parser. -/
structure Setup where
  environment : Config.Environment
  config : Option Config
  parserLimit : Option SizeLimit
deriving Inhabited

namespace Setup

/-- Nothing was asked for yet. -/
def initial : Setup :=
  { environment := [], config := none, parserLimit := none }

/-- Other variables; a configuration that is kept does not change with them. -/
def withEnvironment (s : Setup) (e : Config.Environment) : Setup :=
  { s with environment := e }

/-- Keep a given configuration. -/
def withConfig (s : Setup) (c : Config) : Setup :=
  { s with config := some c }

/-- Keep no configuration; the parser stays. -/
def withoutConfig (s : Setup) : Setup :=
  { s with config := none }

/-- The configuration in force, which is kept from now on. If there is none, nothing
changes. -/
def getConfig (s : Setup) : Except ConfigFault (Config × Setup) :=
  match s.config with
  | some c => .ok (c, s)
  | none => do
    let c ← Config.ofEnvironment s.environment
    return (c, s.withConfig c)

/-- The size limit of the parser, which is made if it has to be. -/
def getParser (s : Setup) : Except ConfigFault (SizeLimit × Setup) :=
  match s.parserLimit with
  | some limit => .ok (limit, s)
  | none => do
    let (c, s) ← s.getConfig
    return (c.sizeLimit, { s with parserLimit := some c.sizeLimit })

end Setup

end TypeShape
