import SqlxDryRun.Editor.Server
import SqlxDryRun.Proofs.Editor.Identifier
import SqlxDryRun.Proofs.Json.Parts

/-!
# Fixes for suggestions

The suggestion of an error travels to the editor in the data of its remark.  When the editor wants
fixes, it sends the remark back, among remarks of other tools.

* `Remark.decode_toJson` is the way there and back: a remark of a dry run is read as it was written.
* `FixRequest` is any request that the server understands; `FixRequest.standard` makes one of any
  remarks.
* `IsFix` says what the fix for a remark looks like.

Main statement: `Server.answers_fixes`.
-/

namespace SqlxDryRun.Editor

open Json (Value)

/-! ## Remarks there and back -/

theorem uint32_ofUInt32 (n : UInt32) : Json.uint32 (.ofUInt32 n) = .ok n := by
  have hlt : n.toNat < UInt32.size := n.toNat_lt_size
  have hbounds : (0 : Int) ≤ (n.toNat : Int) ∧ (n.toNat : Int) ≤ (UInt32.size : Int) - 1 := by
    simp only [UInt32.size] at hlt ⊢
    omega
  rw [Json.uint32, Value.ofUInt32, Json.integer, if_pos hbounds]
  show Except.ok (UInt32.ofNat (n.toNat : Int).toNat) = _
  rw [Int.toNat_natCast, UInt32.ofNat_toNat]

theorem decode_positionJson (p : Position) : positionLayout.decode (positionJson p) = .ok p := by
  have hline := uint32_ofUInt32 p.line
  have hcolumn := uint32_ofUInt32 p.column
  rw [positionJson, Json.decode_ofFields]
  refine (Json.applyFields_of_set rfl (by decide) (congrArg (Except.map _) hline)).trans ?_
  refine (Json.applyFields_of_set rfl (by decide) (congrArg (Except.map _) hcolumn)).trans ?_
  rfl

theorem decode_rangeJson (r : Range) : rangeLayout.decode (rangeJson r) = .ok r := by
  have hstart := decode_positionJson r.start
  have hstop := decode_positionJson r.stop
  rw [rangeJson, Json.decode_ofFields]
  refine (Json.applyFields_of_set rfl (by decide) (congrArg (Except.map _) hstart)).trans ?_
  refine (Json.applyFields_of_set rfl (by decide) (congrArg (Except.map _) hstop)).trans ?_
  rfl

namespace Remark

/-- **A remark of a dry run is read as it was written.** -/
theorem decode_toJson (d : Diagnostic) :
    layout.decode (ofDiagnostic d).toJson = .ok (ofDiagnostic d) := by
  have hrange := decode_rangeJson d.range
  have hseverity : Json.optional Json.int32 (intJson (severityNumber d.severity)) =
      .ok (some (severityNumber d.severity)) := by
    cases d.severity <;> rfl
  rw [toJson, Json.decode_ofFields]
  refine (Json.applyFields_of_set rfl (by decide) (congrArg (Except.map _) hrange)).trans ?_
  refine (Json.applyFields_of_set rfl (by decide) (congrArg (Except.map _) hseverity)).trans ?_
  -- The code, the source and the message are plain texts.
  refine (Json.applyFields_of_set rfl (by decide) rfl).trans ?_
  refine (Json.applyFields_of_set rfl (by decide) rfl).trans ?_
  refine (Json.applyFields_of_set rfl (by decide) rfl).trans ?_
  cases hsuggestion : d.suggestion with
  | none =>
      simp only [ofDiagnostic, hsuggestion]
      rfl
  | some s =>
      simp only [ofDiagnostic, hsuggestion]
      refine (Json.applyFields_of_set rfl (by decide) rfl).trans ?_
      rfl

/-- The remark of a diagnostic has the suggestion of the diagnostic. -/
theorem suggestion?_ofDiagnostic (d : Diagnostic) :
    (ofDiagnostic d).suggestion? = d.suggestion := by
  have hsource : (ofDiagnostic d).source = some dryRunSource := rfl
  have hdata : (ofDiagnostic d).data =
      d.suggestion.map fun s => .ofFields [("suggestion", .string s)] := rfl
  rw [suggestion?, if_pos hsource, hdata]
  cases d.suggestion <;> rfl

end Remark

/-! ## Requests -/

/-- A remark that comes with a request: the remark of an error with a message, a position and a
width, or a remark that another tool has made, in any written form. -/
inductive Entry where
  | own (message : String) (position : Position) (width : UInt32)
  | other (value : Value) (remark : Remark) (isRead : Remark.layout.decode value = .ok remark)
      (isOther : remark.source ≠ some dryRunSource)

namespace Entry

/-- The remark. -/
def remark : Entry → Remark
  | own message position width => .ofDiagnostic (.queryError position width message)
  | other _ remark _ _ => remark

/-- The written form of the remark. -/
def value : Entry → Value
  | own message position width =>
    (Remark.ofDiagnostic (.queryError position width message)).toJson
  | other value _ _ _ => value

/-- The suggestion in the message of an error. -/
def suggestion? : Entry → Option String
  | own message _ _ => Suggestion.ofMessage? message
  | other _ _ _ _ => none

theorem decode_value (e : Entry) : Remark.layout.decode e.value = .ok e.remark := by
  cases e with
  | own message position width => exact Remark.decode_toJson _
  | other value remark isRead isOther => exact isRead

/-- No other tool makes suggestions that count. -/
theorem suggestion?_remark (e : Entry) : e.remark.suggestion? = e.suggestion? := by
  cases e with
  | own message position width => exact Remark.suggestion?_ofDiagnostic _
  | other value remark isRead isOther => exact if_neg isOther

end Entry

/-- A request for fixes that the server understands.  Its parameters may hold anything besides the
document and the remarks. -/
structure FixRequest where
  params : Value
  document : Uri
  entries : List Entry
  hasDocument : ∃ reference address, params.field? "textDocument" = some reference ∧
    reference.field? "uri" = some (.string address) ∧ Uri.ofString? address = some document
  hasEntries : ∃ context, params.field? "context" = some context ∧
    context.field? "diagnostics" = some (.ofItems (entries.map Entry.value))
  isUnderstood : (Command.ofMessage?
    ⟨.request, "textDocument/codeAction", some params⟩).isSome = true

namespace FixRequest

/-- The message of a request. -/
def message (r : FixRequest) : Message :=
  ⟨.request, "textDocument/codeAction", some r.params⟩

/-! ### Reading a request -/

theorem sets_uri : Shape.documentLayout.Sets "uri" uri id where
  own := ⟨_, rfl, fun _ _ => rfl⟩
  others := by
    intro f hf hne
    obtain rfl := List.mem_singleton.1 hf
    exact absurd rfl hne

theorem sets_diagnostics :
    fixContextLayout.Sets "diagnostics" (Json.list Remark.layout.decode) id where
  own := ⟨_, rfl, fun _ _ => rfl⟩
  others := by
    intro f hf hne
    simp only [fixContextLayout, List.mem_cons, List.not_mem_nil, or_false] at hf
    rcases hf with rfl | rfl | rfl
    · exact absurd rfl hne
    · exact Json.RecordField.spares_ignored
    · exact Json.RecordField.spares_ignored

theorem sets_document : fixLayout.Sets "textDocument" Shape.documentLayout.decode Prod.fst where
  own := ⟨_, rfl, fun _ _ => rfl⟩
  others := by
    intro f hf hne
    simp only [fixLayout, tokenFields, List.cons_append, List.nil_append, List.mem_cons,
      List.not_mem_nil, or_false] at hf
    rcases hf with rfl | rfl | rfl | rfl | rfl
    · exact absurd rfl hne
    · exact Json.RecordField.spares_ignored
    · exact Json.RecordField.spares_needed fun _ _ => rfl
    · exact Json.RecordField.spares_ignored
    · exact Json.RecordField.spares_ignored

theorem sets_context : fixLayout.Sets "context" fixContextLayout.decode Prod.snd where
  own := ⟨_, rfl, fun _ _ => rfl⟩
  others := by
    intro f hf hne
    simp only [fixLayout, tokenFields, List.cons_append, List.nil_append, List.mem_cons,
      List.not_mem_nil, or_false] at hf
    rcases hf with rfl | rfl | rfl | rfl | rfl
    · exact Json.RecordField.spares_needed fun _ _ => rfl
    · exact Json.RecordField.spares_ignored
    · exact absurd rfl hne
    · exact Json.RecordField.spares_ignored
    · exact Json.RecordField.spares_ignored

theorem uri_string {address : String} {u : Uri} (h : Uri.ofString? address = some u) :
    uri (.string address) = .ok u := by
  simp only [uri, Json.string, bind, Except.bind, h]

/-- **The server understands the request as one for fixes of its remarks.** -/
theorem ofMessage?_message (r : FixRequest) :
    Command.ofMessage? r.message = some (.fix r.document (r.entries.map Entry.remark)) := by
  have hmessage : Command.ofMessage? r.message =
      ((fixLayout.decodeObject r.params).map fun f => Command.fix f.1 f.2).toOption := rfl
  have hunderstood : (Command.ofMessage? r.message).isSome = true := r.isUnderstood
  rw [hmessage] at hunderstood ⊢
  cases hdecode : fixLayout.decodeObject r.params with
  | error e =>
      rw [hdecode] at hunderstood
      cases hunderstood
  | ok f =>
      have hf := Json.decodeObject_eq_ok hdecode
      obtain ⟨reference, address, hreference, haddress, hdocument⟩ := r.hasDocument
      obtain ⟨context, hcontext, hdiagnostics⟩ := r.hasEntries
      have hfst : uri (.string address) = .ok f.1 :=
        Json.decode_part sets_uri (Json.decode_part sets_document hf hreference) haddress
      have hsnd : Json.list Remark.layout.decode (.ofItems (r.entries.map Entry.value)) =
          .ok f.2 :=
        Json.decode_part sets_diagnostics (Json.decode_part sets_context hf hcontext) hdiagnostics
      have hremarks := Json.list_ofItems_of_decode Entry.decode_value r.entries
      rw [uri_string hdocument] at hfst
      rw [hremarks] at hsnd
      rw [Except.ok.inj hfst, Except.ok.inj hsnd]
      rfl

/-- Any remarks can be sent with a request. -/
def standard {address : String} {document : Uri} (h : Uri.ofString? address = some document)
    (range : Range) (entries : List Entry) : FixRequest where
  params := .ofFields [
    ("textDocument", .ofFields [("uri", .string address)]),
    ("range", rangeJson range),
    ("context", .ofFields [("diagnostics", .ofItems (entries.map Entry.value))])]
  document := document
  entries := entries
  hasDocument := ⟨_, address, rfl, rfl, h⟩
  hasEntries := ⟨_, rfl, rfl⟩
  isUnderstood := by
    have hreference : Shape.documentLayout.decode (.ofFields [("uri", .string address)]) =
        .ok document := by
      have huri := uri_string h
      rw [Json.decode_ofFields]
      exact Json.applyFields_of_set rfl (by decide) (congrArg (Except.map _) huri)
    have hcontext : fixContextLayout.decode
        (.ofFields [("diagnostics", .ofItems (entries.map Entry.value))]) =
        .ok (entries.map Entry.remark) := by
      have hremarks := Json.list_ofItems_of_decode Entry.decode_value entries
      rw [Json.decode_ofFields]
      exact Json.applyFields_of_set rfl (by decide) (congrArg (Except.map _) hremarks)
    have hrange := decode_rangeJson range
    have hdecode : fixLayout.decodeObject (.ofFields [
        ("textDocument", .ofFields [("uri", .string address)]),
        ("range", rangeJson range),
        ("context", .ofFields [("diagnostics", .ofItems (entries.map Entry.value))])]) =
        .ok (document, entries.map Entry.remark) := by
      change fixLayout.applyFields fixLayout.default [] (.ofList _) = _
      refine (Json.applyFields_of_set rfl (by decide) (congrArg (Except.map _) hreference)).trans ?_
      refine (Json.applyFields_of_set rfl (by decide) (congrArg (Except.map _) hrange)).trans ?_
      refine (Json.applyFields_of_set rfl (by decide) (congrArg (Except.map _) hcontext)).trans ?_
      rfl
    show ((fixLayout.decodeObject _).map _).toOption.isSome = true
    rw [hdecode]
    rfl

end FixRequest

/-! ## Fixes -/

/-- The range that the fix for a remark replaces: that of the identifier at which the remark starts,
if the document is open and has one there, and the whole range of the remark otherwise. -/
def Replaces (text : Option String) (l : Remark) (range : Range) : Prop :=
  (∃ t, text = some t ∧ TouchedIn t l.range.start range) ∨
    ((∀ t r, text = some t → ¬TouchedIn t l.range.start r) ∧ range = l.range)

/-- The written form of a fix for a remark about a document, with this suggestion: it names the
remark alone, and makes one edit, in the document. -/
structure IsFix (text : Option String) (document : Uri) (l : Remark) (suggestion : String)
    (action : Value) : Prop where
  echoes : action.field? "diagnostics" = some (.ofItems [l.toJson])
  edits : ∃ range, Replaces text l range ∧
    action.field? "edit" = some (.ofFields [("changes", .ofFields [(document.toString, .ofItems [
      .ofFields [("range", rangeJson range), ("newText", .string suggestion)]])])])

theorem replaces_range (text : Option String) (l : Remark) :
    Replaces text l ((text.bind fun t => identifierRange? t l.range.start).getD l.range) := by
  cases text with
  | none =>
      refine Or.inr ⟨?_, rfl⟩
      intro t r ht
      cases ht
  | some t =>
      rw [Option.bind_some]
      cases hrange : identifierRange? t l.range.start with
      | some range => exact Or.inl ⟨t, rfl, identifierRange?_eq_some_iff.1 hrange⟩
      | none =>
          refine Or.inr ⟨?_, rfl⟩
          intro t' r ht htouched
          obtain rfl := Option.some.inj ht
          rw [identifierRange?_eq_some_iff.2 htouched] at hrange
          cases hrange

/-- A remark with a suggestion has a fix, and a remark without one has none. -/
theorem isFix_of_suggestion {text : Option String} (document : Uri) {l : Remark}
    {suggestion : String} (h : l.suggestion? = some suggestion) :
    ∃ f, QuickFix.ofRemark? document text l = some f ∧
      IsFix text document l suggestion f.toJson := by
  refine ⟨_, by rw [QuickFix.ofRemark?, h]; rfl, ?_⟩
  exact ⟨rfl, _, replaces_range text l, rfl⟩

/-- The remarks with suggestions, in order. -/
def wanted (entries : List Entry) : List (Remark × String) :=
  entries.filterMap fun e => e.suggestion?.map fun suggestion => (e.remark, suggestion)

theorem forall₂_fixes (s : Server) (document : Uri) (entries : List Entry) :
    List.Forall₂ (fun w action => IsFix (s.textOf? document) document w.1 w.2 action)
      (wanted entries) ((s.fixes document (entries.map Entry.remark)).map QuickFix.toJson) := by
  induction entries with
  | nil => exact .nil
  | cons e entries ih =>
      have hsuggestion := e.suggestion?_remark
      rw [wanted, Server.fixes, List.map_cons, List.filterMap_cons, List.filterMap_cons]
      cases hs : e.suggestion? with
      | none =>
          rw [hs] at hsuggestion
          have hnone : QuickFix.ofRemark? document (s.textOf? document) e.remark = none := by
            rw [QuickFix.ofRemark?, hsuggestion]
            rfl
          rw [hnone]
          exact ih
      | some suggestion =>
          rw [hs] at hsuggestion
          obtain ⟨f, hf, hfix⟩ := isFix_of_suggestion document hsuggestion
          rw [hf]
          exact .cons hfix ih

namespace Server

/-- A running server serves a request for fixes. -/
theorem receive_fixRequest {s : Server} (hs : s.phase = .running) (host : Host)
    (env : Environment) (r : FixRequest) :
    s.receive host env r.message =
      some (s.serve host env (.fix r.document (r.entries.map Entry.remark))) := by
  have hserve : s.serveMessage host env r.message =
      s.serve host env (.fix r.document (r.entries.map Entry.remark)) := by
    rw [serveMessage, r.ofMessage?_message]
    rfl
  have hdollar : r.message.method.startsWith "$/" = false := by
    show "textDocument/codeAction".startsWith "$/" = false
    decide +kernel
  rw [receive, hs, hdollar]
  exact congrArg some hserve

/-- **Suggestions come back as fixes.**  A running server answers every request for fixes that it
understands, and stays as it is.  Among the remarks of the request are those of errors with any
message, position and width, and remarks of other tools.  The answer has one fix for each error
whose message has a suggestion, in the order of the request, and it is `null` if there is none.
Each fix names its remark as it was sent, and puts the suggestion into the requested document, in
the place of the identifier at which the remark starts or else of the range of the remark. -/
theorem answers_fixes {s : Server} (hs : s.phase = .running) (host : Host) (env : Environment)
    (r : FixRequest) :
    ∃ actions : List Value,
      s.receive host env r.message = some (s, .answering (.ok
        (if actions.isEmpty then .null else .ofItems actions))) ∧
      List.Forall₂ (fun w action => IsFix (s.textOf? r.document) r.document w.1 w.2 action)
        (wanted r.entries) actions := by
  refine ⟨(s.fixes r.document (r.entries.map Entry.remark)).map QuickFix.toJson, ?_,
    forall₂_fixes s r.document r.entries⟩
  rw [receive_fixRequest hs host env r, List.isEmpty_map]
  rfl

end Server

/-! ## A sample -/

namespace Sample

/-- The document `/w/misspelt.sqlx`. -/
def misspeltUri : Uri :=
  ⟨"file", some ⟨"", .empty, none⟩, .segments ["w".toList, "misspelt.sqlx".toList], none, none⟩

theorem ofString?_misspelt : Uri.ofString? "file:///w/misspelt.sqlx" = some misspeltUri := by
  decide +kernel

/-- A server on which the document is open. -/
def misspeltServer : Server :=
  { Server.fresh with phase := .running }.keepText misspeltUri "select MODELID"

/-- A remark of another tool, which knows a better name, too. -/
def foreign : Entry :=
  .other (.ofFields [("range", rangeJson default), ("source", .string "linter"),
      ("message", .string "Bad name; Did you mean m?")])
    { (default : Remark) with source := some "linter", message := "Bad name; Did you mean m?" }
    rfl (by decide)

/-- An error without a suggestion, the remark of another tool, and an error with a suggestion. -/
def mixed : List Entry :=
  [.own "No such table" ⟨0, 0⟩ 5, foreign,
    .own "Unrecognized name: MODELID; Did you mean MODEL_ID? at [1:8]" ⟨0, 7⟩ 5]

end Sample

/-- The one suggestion comes back as the one fix. -/
theorem Server.answers_fixes_sample :
    ∃ action, Sample.misspeltServer.receive default ⟨none, ⟨true, ["tmp"]⟩⟩
        (FixRequest.standard Sample.ofString?_misspelt default Sample.mixed).message =
          some (Sample.misspeltServer, .answering (.ok (.ofItems [action]))) ∧
      IsFix (some "select MODELID") Sample.misspeltUri
        (.ofDiagnostic (.queryError ⟨0, 7⟩ 5
          "Unrecognized name: MODELID; Did you mean MODEL_ID? at [1:8]")) "MODEL_ID" action := by
  obtain ⟨actions, hreceive, hfixes⟩ := Server.answers_fixes (s := Sample.misspeltServer) rfl
    default ⟨none, ⟨true, ["tmp"]⟩⟩
    (FixRequest.standard Sample.ofString?_misspelt default Sample.mixed)
  have htext : Sample.misspeltServer.textOf? Sample.misspeltUri = some "select MODELID" := by
    decide +kernel
  have hwanted : wanted Sample.mixed = [(.ofDiagnostic (.queryError ⟨0, 7⟩ 5
      "Unrecognized name: MODELID; Did you mean MODEL_ID? at [1:8]"), "MODEL_ID")] := rfl
  rw [show (FixRequest.standard Sample.ofString?_misspelt default Sample.mixed).entries =
      Sample.mixed from rfl, hwanted] at hfixes
  cases hfixes with
  | cons hfix hrest =>
      cases hrest
      refine ⟨_, hreceive, ?_⟩
      rw [← htext]
      exact hfix

end SqlxDryRun.Editor
