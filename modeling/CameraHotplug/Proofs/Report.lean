import CameraHotplug.Listing
import CameraHotplug.Proofs.JsonWriting

/-!
# What the report of a listing shows

The report of a listing is a text or a JSON document. Either way it has one part for each listed
node, in their order, and the part shows the path, the id and the class of the node and whether it
captures; and it gives the number of all nodes and of those of each class.
-/

namespace CameraHotplug

open Json

/-! ### Counts -/

namespace Summary

/-- How many nodes a summary counts under a class. -/
def count (summary : Summary) : ListedClass → Nat
  | .internal => summary.internal
  | .examined .notExternal => summary.notExternal
  | .examined .external => summary.external
  | .examined .externalReceiver => summary.receivers

/-- All nodes are counted, and those of each class. -/
abbrev Kind :=
  Option ListedClass

namespace Kind

def all : List Kind :=
  [none, some .internal, some (.examined .notExternal), some (.examined .external),
    some (.examined .externalReceiver)]

def count (summary : Summary) : Kind → Nat
  | none => summary.total
  | some listedClass => summary.count listedClass

def word : Kind → String
  | none => "nodes"
  | some .internal => "internal"
  | some (.examined .notExternal) => "not external"
  | some (.examined .external) => "external"
  | some (.examined .externalReceiver) => "receivers"

def name : Kind → String
  | none => "total"
  | some .internal => "internal"
  | some (.examined .notExternal) => "not_external"
  | some (.examined .external) => "external"
  | some (.examined .externalReceiver) => "receivers"

end Kind

/-- The counts in words. -/
def line (summary : Summary) : String :=
  "Summary: " ++
    ", ".intercalate (Kind.all.map fun kind => toString (kind.count summary) ++ " " ++ kind.word)

end Summary

namespace Listing

/-- The word for a class. -/
inductive IsClassWord : ListedClass → String → Prop where
  | internal : IsClassWord .internal "internal"
  | notExternal : IsClassWord (.examined .notExternal) "not-external"
  | external : IsClassWord (.examined .external) "external"
  | receiver : IsClassWord (.examined .externalReceiver) "external-receiver"

theorem isClassWord_text (listedClass : ListedClass) :
    IsClassWord listedClass listedClass.text := by
  cases listedClass with
  | internal => exact .internal
  | examined classification =>
      cases classification with
      | notExternal => exact .notExternal
      | external => exact .external
      | externalReceiver => exact .receiver

/-! ### As text -/

/-- A text with blanks after it, as wide as the column, or wider if the text is. -/
def IsCell (width : Nat) (text cell : String) : Prop :=
  cell.length = max width text.length ∧
    ∃ count, cell = text ++ String.ofList (List.replicate count ' ')

/-- What stands behind a node that was probed, and nothing behind others. -/
inductive IsNote : Option Bool → String → Prop where
  | unprobed : IsNote none ""
  | captures : IsNote (some true) " [capture ok]"
  | fails : IsNote (some false) " [capture probe failed]"

/-- Path, class and id of a node, with a blank in between. -/
def IsNodeLine (listed : ListedNode) (line : String) : Prop :=
  ∃ word pathCell classCell note, IsClassWord listed.listedClass word ∧
    IsCell 16 listed.path.text pathCell ∧ IsCell 18 word classCell ∧
    IsNote listed.capture? note ∧
    line = "  " ++ pathCell ++ " " ++ classCell ++ " " ++ listed.id.text ++ note ++ "\n"

def header (listing : Listing) : String :=
  "Scanned " ++ listing.directory.text ++ " (device version " ++ listing.version.text ++
    ", id offset " ++ toString listing.offset.toNat ++ ")"

/-- A header, a line for each node, and the counts, with empty lines in between. -/
def IsTextOf (listing : Listing) (report : String) : Prop :=
  ∃ lines, List.Forall₂ IsNodeLine listing.nodes lines ∧
    report = listing.header ++ "\n\n" ++
      String.join (if lines = [] then ["  No matching device nodes\n"] else lines) ++ "\n" ++
      listing.summary.line ++ "\n"

theorem isCell_padEnd (width : Nat) (text : String) :
    IsCell width text (Text.padEnd width text) := by
  refine ⟨?_, width - text.length, rfl⟩
  rw [Text.padEnd, String.length_append, String.length_ofList, List.length_replicate]
  omega

theorem isNote_captureNote (capture? : Option Bool) : IsNote capture? (captureNote capture?) := by
  cases capture? with
  | none => exact .unprobed
  | some capture =>
      cases capture with
      | true => exact .captures
      | false => exact .fails

theorem isNodeLine_nodeLine (listed : ListedNode) : IsNodeLine listed (nodeLine listed) :=
  ⟨_, _, _, _, isClassWord_text _, isCell_padEnd 16 _, isCell_padEnd 18 _,
    isNote_captureNote _, rfl⟩

theorem summaryLine_eq (summary : Summary) : summaryLine summary = summary.line ++ "\n" := by
  have hword (word : String) : toString word = word := rfl
  unfold summaryLine Summary.line Summary.Kind.all
  simp only [hword, List.map_cons, List.map_nil, Summary.Kind.count, Summary.Kind.word,
    Summary.count, String.append_assoc, String.intercalate_cons_cons,
    String.intercalate_singleton]
  rfl

theorem isTextOf_text (listing : Listing) : listing.IsTextOf listing.text := by
  have hlines : (if listing.nodes = [] then "  No matching device nodes\n"
        else String.join (listing.nodes.map nodeLine)) =
      String.join (if listing.nodes.map nodeLine = [] then ["  No matching device nodes\n"]
        else listing.nodes.map nodeLine) := by
    cases listing.nodes with
    | nil => rfl
    | cons listed nodes => rfl
  refine ⟨listing.nodes.map nodeLine, ?_, ?_⟩
  · rw [List.forall₂_map_right_iff, List.forall₂_same]
    exact fun listed _ => isNodeLine_nodeLine listed
  · unfold text header
    simp only [hlines, summaryLine_eq, Decimal.text_eq_toString, String.append_assoc]
    rfl

/-! ### As JSON -/

inductive NodeField where
  | path
  | id
  | listedClass
  | capture
  deriving DecidableEq

namespace NodeField

def name : NodeField → String
  | .path => "node"
  | .id => "id"
  | .listedClass => "class"
  | .capture => "capture"

/-- The fields of a node. Only probed nodes have the last. -/
def fieldsOf (listed : ListedNode) : List NodeField :=
  [.path, .id, .listedClass] ++ if listed.capture?.isSome then [.capture] else []

/-- The ways to write a field of a node. -/
def Writes (listed : ListedNode) : NodeField → List Char → Prop
  | .path => IsText listed.path.text
  | .id => IsText listed.id.text
  | .listedClass => fun chars => ∃ word, IsClassWord listed.listedClass word ∧ IsText word chars
  | .capture => fun chars => ∃ capture ∈ listed.capture?, IsTruth capture chars

def json (listed : ListedNode) : NodeField → Json
  | .path => .string listed.path.text
  | .id => listed.id.toJson
  | .listedClass => .string listed.listedClass.text
  | .capture => .bool (listed.capture?.getD false)

end NodeField

inductive Field where
  | directory
  | version
  | offset
  | nodes
  | summary
  deriving DecidableEq

namespace Field

def all : List Field :=
  [.directory, .version, .offset, .nodes, .summary]

def name : Field → String
  | .directory => "device_dir"
  | .version => "version"
  | .offset => "offset"
  | .nodes => "devices"
  | .summary => "summary"

def Writes (listing : Listing) : Field → List Char → Prop
  | .directory => IsText listing.directory.text
  | .version => IsText listing.version.text
  | .offset => IsNumeral listing.offset.toNat
  | .nodes => IsList (fun listed => IsObject NodeField.name (NodeField.Writes listed)
      (NodeField.fieldsOf listed)) listing.nodes
  | .summary => IsObject Summary.Kind.name
      (fun kind => IsNumeral (kind.count listing.summary)) Summary.Kind.all

def json (listing : Listing) : Field → Json
  | .directory => .string listing.directory.text
  | .version => .string listing.version.text
  | .offset => .number listing.offset.toNat
  | .nodes => .array (listing.nodes.map nodeJson)
  | .summary => summaryJson listing.summary

end Field

/-- An object of the fields of the listing, on lines of its own. -/
def IsJsonOf (listing : Listing) (report : String) : Prop :=
  ∃ chars, report = String.ofList chars ++ "\n" ∧
    IsObject Field.name (Field.Writes listing) Field.all chars

theorem nodeJson_eq (listed : ListedNode) :
    nodeJson listed = .object ((NodeField.fieldsOf listed).map fun field =>
      (field.name, field.json listed)) := by
  rw [nodeJson, NodeField.fieldsOf]
  cases hcapture : listed.capture? with
  | none => rfl
  | some capture => simp [NodeField.name, NodeField.json, hcapture]

theorem NodeField.writes_json (depth : Nat) (listed : ListedNode) {field : NodeField}
    (hfield : field ∈ fieldsOf listed) :
    field.Writes listed (indented depth (field.json listed)) := by
  have hlayout := layout_indented depth
  cases field with
  | path => exact hlayout.isText _
  | id => exact hlayout.isText _
  | listedClass => exact ⟨_, isClassWord_text _, hlayout.isText _⟩
  | capture =>
      cases hcapture : listed.capture? with
      | none => simp [fieldsOf, hcapture] at hfield
      | some capture =>
          refine ⟨capture, hcapture, ?_⟩
          rw [json, hcapture]
          exact hlayout.isTruth capture

theorem isObject_nodeJson (depth : Nat) (listed : ListedNode) :
    IsObject NodeField.name (NodeField.Writes listed) (NodeField.fieldsOf listed)
      (indented depth (nodeJson listed)) := by
  have hnodup : (NodeField.fieldsOf listed).Nodup := by
    rw [NodeField.fieldsOf]
    split_ifs <;> decide
  rw [nodeJson_eq]
  exact (layout_indented depth).isObject
    (fun _ hfield => NodeField.writes_json (depth + 1) listed hfield) hnodup

theorem summaryJson_eq (summary : Summary) :
    summaryJson summary =
      .object (Summary.Kind.all.map fun kind => (kind.name, .number (kind.count summary))) :=
  rfl

theorem toJson_eq (listing : Listing) :
    listing.toJson = .object (Field.all.map fun field => (field.name, field.json listing)) :=
  rfl

theorem Field.writes_json (depth : Nat) (listing : Listing) (field : Field) :
    field.Writes listing (indented depth (field.json listing)) := by
  have hlayout := layout_indented depth
  have hcounts := layout_indented (depth + 1)
  cases field with
  | directory => exact hlayout.isText _
  | version => exact hlayout.isText _
  | offset => exact hlayout.isNumeral _
  | nodes =>
      rw [Writes, json]
      exact hlayout.isList (isObject_nodeJson (depth + 1)) listing.nodes
  | summary =>
      rw [Writes, json, summaryJson_eq]
      exact hlayout.isObject (fun kind _ => hcounts.isNumeral (kind.count listing.summary))
        (by decide)

theorem isJsonOf_document (listing : Listing) :
    listing.IsJsonOf (listing.toJson.document ++ "\n") := by
  refine ⟨_, rfl, ?_⟩
  rw [toJson_eq]
  exact (layout_indented 0).isObject (fun field _ => field.writes_json 1 listing) (by decide)

/-! ### Either way -/

/-- The report shows the listing, as JSON or as text. -/
def IsReport (listing : Listing) : Bool → String → Prop
  | true => listing.IsJsonOf
  | false => listing.IsTextOf

end Listing

end CameraHotplug
