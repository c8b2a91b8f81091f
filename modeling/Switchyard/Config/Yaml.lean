import Switchyard.Config
import Switchyard.Yaml.Record

/-!
# Configurations as YAML

A configuration is a record of a map of routes and a map of default parameters, and may be empty;
the record of a route must have its path. A document that breaks a rule is refused as a whole.
-/

namespace Switchyard

open Yaml (Node Record)

/-- Parameters. -/
def Params.ofNode? (node : Node) : Option Params := (node.map? Node.text?).map Keyed.ofList

/-- A set of names. -/
def NameSet.ofNode? (node : Node) : Option NameSet := node.texts?.map NameSet.ofNames

/-- The record of a route. -/
def RouteConfig.ofNode? (node : Node) : Option RouteConfig := do
  let record ← Record.ofNode? ["path", "defaults", "constraints", "schemes", "methods"] node
  let path ← record.required? "path" Node.text?
  let defaults ← record.optional? "defaults" .empty Params.ofNode?
  let constraints ← record.optional? "constraints" .empty Params.ofNode?
  let schemes ← record.optional? "schemes" .empty NameSet.ofNode?
  let methods ← record.optional? "methods" .empty NameSet.ofNode?
  return { path, defaults, constraints, schemes, methods }

/-- A configuration. -/
def RouterConfig.ofNode? (node : Node) : Option RouterConfig := do
  let record ← Record.ofNode? ["routes", "default_params"] node
  let routes ← record.optional? "routes" [] (Node.map? RouteConfig.ofNode?)
  let defaultParams ← record.optional? "default_params" .empty Params.ofNode?
  return { routes := .ofList routes, defaultParams }

/-- Reads the text of a configuration. -/
def RouterConfig.ofYamlText? (text : String) : Option RouterConfig :=
  (Node.document? text).bind (Node.read? RouterConfig.ofNode?)

end Switchyard
