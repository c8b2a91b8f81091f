import Switchyard.Config.Yaml
import Switchyard.Fixture

/-!
# Fixtures as YAML

A fixture is a record that must have a name and a description. A text holds one fixture, or one in
each of its documents.
-/

namespace Switchyard

open Yaml (Node Record)

/-- The kind of error of that name. -/
def ErrorKind.ofName? : String → Option ErrorKind
  | "invalid_pattern" => some .invalidPattern
  | "missing_placeholder" => some .missingPlaceholder
  | "constraint_violation" => some .constraintViolation
  | "no_routes" => some .noRoutes
  | "not_found" => some .notFound
  | "unknown_route" => some .unknownRoute
  | "no_match" => some .noMatch
  | "invalid_config" => some .invalidConfig
  | _ => none

/-- A kind of error. -/
def ErrorKind.ofNode? (node : Node) : Option ErrorKind := node.case?.bind ofName?

/-- An expected match. -/
def ExpectedMatch.ofNode? (node : Node) : Option ExpectedMatch := do
  let record ← Record.ofNode? ["route", "params", "absent"] node
  let route ← record.required? "route" Node.text?
  let params ← record.optional? "params" .empty Params.ofNode?
  let absent ← record.optional? "absent" [] Node.texts?
  return { route, params, absent }

/-- A case of matching. -/
def MatchCase.ofNode? (node : Node) : Option MatchCase := do
  let record ←
    Record.ofNode? ["name", "method", "scheme", "path", "expect", "expect_error"] node
  let name ← record.required? "name" Node.text?
  let method ← record.optional? "method" "GET" Node.text?
  let scheme ← record.optional? "scheme" "http" Node.text?
  let path ← record.required? "path" Node.text?
  let expect ← record.optional? "expect" none (Node.absentOr? ExpectedMatch.ofNode?)
  let expectError ← record.optional? "expect_error" none (Node.absentOr? ErrorKind.ofNode?)
  return { name, request := { method, scheme, path }, expect, expectError }

/-- A case of assembling. -/
def AssembleCase.ofNode? (node : Node) : Option AssembleCase := do
  let record ← Record.ofNode? ["name", "route", "params", "expect", "expect_error"] node
  let name ← record.required? "name" Node.text?
  let route ← record.required? "route" Node.text?
  let params ← record.optional? "params" .empty Params.ofNode?
  let expect ← record.optional? "expect" none (Node.absentOr? Node.text?)
  let expectError ← record.optional? "expect_error" none (Node.absentOr? ErrorKind.ofNode?)
  return { name, route, params, expect, expectError }

namespace Fixture

/-- A fixture. -/
def ofNode? (node : Node) : Option Fixture := do
  let record ← Record.ofNode?
    ["name", "description", "router", "expect_build_error", "cases", "assemble"] node
  let name ← record.required? "name" Node.text?
  let description ← record.required? "description" Node.text?
  let router ← record.optional? "router" .empty RouterConfig.ofNode?
  let expectBuildError ←
    record.optional? "expect_build_error" none (Node.absentOr? ErrorKind.ofNode?)
  let cases ← record.optional? "cases" [] (Node.list? MatchCase.ofNode?)
  let assemble ← record.optional? "assemble" [] (Node.list? AssembleCase.ofNode?)
  return { name, description, router, expectBuildError, cases, assemble }

/-- Reads the text of one fixture. -/
def ofYamlText? (text : String) : Option Fixture := (Node.document? text).bind (Node.read? ofNode?)

/-- Reads a text with a fixture in each document. -/
def allOfYamlText? (text : String) : Option (List Fixture) :=
  (Node.documents? text).bind fun documents => documents.mapM (Node.read? ofNode?)

end Fixture

end Switchyard
