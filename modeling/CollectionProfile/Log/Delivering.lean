import CollectionProfile.Delivery.Artifact
import CollectionProfile.Log.Reading

/-!
# What delivering artifacts logs

The events that tell how mappings were compiled and which files were written.
-/

namespace CollectionProfile.Log

/-- The span of a command that makes mappings. -/
def mappingSpan (convention : Mapping.Convention) : Span where
  name := "mapping"
  target := "ca_profile::commands"
  fields := [("convention", .plain convention.token)]

/-- The span of a command that makes schema documents. -/
def schemaSpan : Span where
  name := "schema"
  target := "ca_profile::commands"

/-- The span of making the mappings of all tables, one by one. -/
def mappingsSpan (convention : Mapping.Convention) : Span where
  name := "mapping_artifacts"
  target := "profile_report::aggregate"
  fields := [("convention", .plain convention.token)]

/-- The span of making the schema documents of all tables, one by one. -/
def schemasSpan : Span where
  name := "schema_artifacts"
  target := "profile_report::aggregate"

/-- The events of compiling the relations of a table. -/
def relationEvents (relationships : List Relationship) (base : String) : List Event :=
  (Mapping.relatedTables relationships base).map fun (other, count) =>
    detail "profile_map::relations" "compiled relation group"
      [("base_table", .quoted base), ("other", .quoted other), ("relation_count", .number count)]

/-- The events of making the mapping of one table; none if the table is unknown. -/
def mappingEvents (schema : Schema) (options : Mapping.Options) (table : String) : List Event :=
  match Mapping.compileTable schema table options with
  | .error _ => []
  | .ok sheet =>
    (if options.relations then relationEvents schema.relationships table else [])
      ++ [detail "profile_map::flat" "compiled flat mapping"
          [("table", .quoted table), ("fields", .number sheet.fieldRows),
            ("relation_rows", .number sheet.relationRows),
            ("convention", .plain options.convention.token)],
        detail "profile_report::aggregate" "rendered mapping"
          [("file", .plain (ArtifactKind.mapping table options.relations).fileName),
            ("rows", .number sheet.rows.length)]]

/-- The event of making the mapping of all tables in one. -/
def combinedMappingEvent (schema : Schema) : Event :=
  let (_, numbering) := Mapping.tablesRows schema.tables.toList .afterRoot
  detail "profile_map::combined" "compiled combined mapping"
    [("tables", .number schema.summary.tables), ("field_rows", .number schema.tables.fieldCount),
      ("last_id", .number (numbering.next - 1))]

/-- An artifact was written to a file. -/
def artifactWritten (path : String) (artifact : Artifact) : Event where
  level := .info
  target := "profile_report::artifact"
  message := "artifact written"
  fields := [("path", .plain path), ("bytes", .number artifact.contents.utf8ByteSize),
    ("elements", .number artifact.elementCount)]

end CollectionProfile.Log
