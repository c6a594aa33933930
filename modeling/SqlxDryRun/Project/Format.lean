import SqlxDryRun.Json.Decoder
import SqlxDryRun.Project.Basic

/-!
# Compiled projects in JSON

Each record has a layout, by which it is read, and `toJson`, by which it is written. Every field may
be left out and then has its empty value; fields that a layout does not know are skipped, so the
output of other versions of the compiler can still be read.
-/

namespace SqlxDryRun.Project

open Json (Value Layout Decoded)

/-- The fields of a target. -/
def Target.layout : Layout Target where
  fields := [
    .optional "database" Json.string fun t s => { t with database := s },
    .optional "schema" Json.string fun t s => { t with schema := s },
    .optional "name" Json.string fun t s => { t with name := s }]
  default := default
  mayBeShort := true

/-- The written form of a target. -/
def Target.toJson (t : Target) : Value :=
  .ofFields [
    ("database", .string t.database),
    ("schema", .string t.schema),
    ("name", .string t.name)]

/-- The fields of a table. -/
def Table.layout : Layout Table where
  fields := [
    .optional "target" Target.layout.decode fun t v => { t with target := v },
    .optional "query" Json.string fun t v => { t with query := v },
    .optional "fileName" Json.string fun t v => { t with fileName := v },
    .optional "tags" (Json.list Json.string) fun t v => { t with tags := v },
    .optional "type" (Json.optional Json.string) fun t v => { t with kind := v },
    .optional "incrementalQuery" (Json.optional Json.string) fun t v =>
      { t with incrementalQuery := v },
    .optional "preOps" (Json.list Json.string) fun t v => { t with preOps := v },
    .optional "postOps" (Json.list Json.string) fun t v => { t with postOps := v },
    .optional "dependencyTargets" (Json.list Target.layout.decode) fun t v =>
      { t with dependencyTargets := v }]
  default := default
  mayBeShort := true

/-- The written form of a table. -/
def Table.toJson (t : Table) : Value :=
  .ofFields [
    ("target", t.target.toJson),
    ("query", .string t.query),
    ("fileName", .string t.fileName),
    ("tags", .ofStrings t.tags),
    ("type", .ofOption .string t.kind),
    ("incrementalQuery", .ofOption .string t.incrementalQuery),
    ("preOps", .ofStrings t.preOps),
    ("postOps", .ofStrings t.postOps),
    ("dependencyTargets", .ofItems (t.dependencyTargets.map Target.toJson))]

/-- The fields of an assertion. -/
def Assertion.layout : Layout Assertion where
  fields := [
    .optional "target" Target.layout.decode fun a v => { a with target := v },
    .optional "query" Json.string fun a v => { a with query := v },
    .optional "fileName" Json.string fun a v => { a with fileName := v },
    .optional "tags" (Json.list Json.string) fun a v => { a with tags := v }]
  default := default
  mayBeShort := true

/-- The written form of an assertion. -/
def Assertion.toJson (a : Assertion) : Value :=
  .ofFields [
    ("target", a.target.toJson),
    ("query", .string a.query),
    ("fileName", .string a.fileName),
    ("tags", .ofStrings a.tags)]

/-- The fields of an operation. -/
def Operation.layout : Layout Operation where
  fields := [
    .optional "target" Target.layout.decode fun o v => { o with target := v },
    .optional "queries" (Json.list Json.string) fun o v => { o with queries := v },
    .optional "fileName" Json.string fun o v => { o with fileName := v },
    .optional "tags" (Json.list Json.string) fun o v => { o with tags := v }]
  default := default
  mayBeShort := true

/-- The written form of an operation. -/
def Operation.toJson (o : Operation) : Value :=
  .ofFields [
    ("target", o.target.toJson),
    ("queries", .ofStrings o.queries),
    ("fileName", .string o.fileName),
    ("tags", .ofStrings o.tags)]

/-- The fields of a declaration. -/
def Declaration.layout : Layout Declaration where
  fields := [
    .optional "target" Target.layout.decode fun d v => { d with target := v },
    .optional "fileName" Json.string fun d v => { d with fileName := v }]
  default := default
  mayBeShort := true

/-- The written form of a declaration. -/
def Declaration.toJson (d : Declaration) : Value :=
  .ofFields [("target", d.target.toJson), ("fileName", .string d.fileName)]

/-- The fields of a compilation error. -/
def CompilationError.layout : Layout CompilationError where
  fields := [
    .optional "fileName" Json.string fun e v => { e with fileName := v },
    .optional "message" Json.string fun e v => { e with message := v }]
  default := default
  mayBeShort := true

/-- The written form of a compilation error. -/
def CompilationError.toJson (e : CompilationError) : Value :=
  .ofFields [("fileName", .string e.fileName), ("message", .string e.message)]

/-- The fields of the errors of a project. -/
def GraphErrors.layout : Layout GraphErrors where
  fields := [
    .optional "compilationErrors" (Json.list CompilationError.layout.decode) fun g v =>
      { g with compilationErrors := v }]
  default := default
  mayBeShort := true

/-- The written form of the errors of a project. -/
def GraphErrors.toJson (g : GraphErrors) : Value :=
  .ofFields [("compilationErrors", .ofItems (g.compilationErrors.map CompilationError.toJson))]

/-- The fields of a project. -/
def layout : Layout Project where
  fields := [
    .optional "tables" (Json.list Table.layout.decode) fun p v => { p with tables := v },
    .optional "assertions" (Json.list Assertion.layout.decode) fun p v =>
      { p with assertions := v },
    .optional "operations" (Json.list Operation.layout.decode) fun p v =>
      { p with operations := v },
    .optional "declarations" (Json.list Declaration.layout.decode) fun p v =>
      { p with declarations := v },
    .optional "targets" (Json.list Target.layout.decode) fun p v => { p with targets := v },
    .optional "graphErrors" GraphErrors.layout.decode fun p v => { p with graphErrors := v }]
  default := default
  mayBeShort := true

/-- The written form of a project. -/
def toJson (p : Project) : Value :=
  .ofFields [
    ("tables", .ofItems (p.tables.map Table.toJson)),
    ("assertions", .ofItems (p.assertions.map Assertion.toJson)),
    ("operations", .ofItems (p.operations.map Operation.toJson)),
    ("declarations", .ofItems (p.declarations.map Declaration.toJson)),
    ("targets", .ofItems (p.targets.map Target.toJson)),
    ("graphErrors", p.graphErrors.toJson)]

/-- The project that a text holds. -/
def ofText (text : String) : Decoded Project :=
  Json.decodeText layout.decode text

end SqlxDryRun.Project
