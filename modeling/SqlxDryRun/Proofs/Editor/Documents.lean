import SqlxDryRun.Editor.Server

/-!
# The texts of open documents

An editor reports each change of an open document, and the server keeps a copy of the text.
`Command.textAfter` says by the rules of the protocol what becomes of a text with each report.

* `Server.get?_documents_serve` says what one command does to each copy.
* `Server.receive_report` leads a report, as it arrives, to the command in it.
* `Server.hears_texts` is the run of any number of reports.  A copy is the text of its document if
  no report brings several changes that end in another text than they begin with; of several changes
  the server keeps the first one.
-/

namespace SqlxDryRun.Editor

/-! ## Texts in an editor -/

namespace Command

/-- The document whose text a command reports on. -/
def document? : Command → Option Uri
  | .opened u _ | .changed u _ | .saved u _ | .closed u => some u
  | _ => none

/-- Whether a command reports on the file at a path. -/
def isOn (p : Path) (c : Command) : Bool :=
  (c.document?.bind Uri.toBytePath?).any fun q => p.same q

/-- The text of a document after a report on it, if it had one before.  Changes replace the whole
text, one after the other; a document that is closed has no text. -/
def textAfter (text : Option String) : Command → Option String
  | .opened _ t => some t
  | .changed _ ts => ts.foldl (fun _ t => some t) text
  | .saved _ t => t.or text
  | .closed _ => none
  | _ => text

/-- The report with the first of its changes alone. -/
def firstChange : Command → Command
  | .changed u ts => .changed u (ts.take 1)
  | c => c

/-- The changes of a report end in the text with which they begin, as they do if there is only one.
-/
def IsSteady : Command → Prop
  | .changed _ ts => ts.head? = ts.getLast?
  | _ => True

@[simp] theorem isOn_firstChange (p : Path) (c : Command) : c.firstChange.isOn p = c.isOn p := by
  cases c <;> rfl

/-- The last change of a report stands. -/
theorem textAfter_changed (text : Option String) (u : Uri) (ts : List String) :
    textAfter text (.changed u ts) = ts.getLast?.or text := by
  rw [textAfter]
  induction ts generalizing text with
  | nil => rfl
  | cons t ts ih =>
      rw [List.foldl_cons, ih, List.getLast?_cons]
      cases ts.getLast? <;> rfl

theorem textAfter_firstChange_of_isSteady {c : Command} (h : c.IsSteady) (text : Option String) :
    textAfter text c.firstChange = textAfter text c := by
  cases c with
  | changed u ts =>
      have hfirst : (ts.take 1).getLast? = ts.head? := by cases ts <;> rfl
      rw [firstChange, textAfter_changed, textAfter_changed, hfirst, h]
  | _ => rfl

end Command

/-- The text of the file at a path after reports, most of which may be on other files.  Only those
on the file itself count. -/
def textIn (p : Path) (text : Option String) (cs : List Command) : Option String :=
  (cs.filter (Command.isOn p)).foldl Command.textAfter text

theorem textIn_cons (p : Path) (text : Option String) (c : Command) (cs : List Command) :
    textIn p text (c :: cs) = textIn p (if c.isOn p then c.textAfter text else text) cs := by
  rw [textIn, List.filter_cons]
  cases c.isOn p <;> rfl

/-- Steady reports bring the same text with their first changes alone. -/
theorem textIn_firstChange {p : Path} {cs : List Command}
    (h : ∀ c ∈ cs, c.isOn p = true → c.IsSteady) (text : Option String) :
    textIn p text (cs.map Command.firstChange) = textIn p text cs := by
  induction cs generalizing text with
  | nil => rfl
  | cons c cs ih =>
      have hcs : ∀ c' ∈ cs, c'.isOn p = true → c'.IsSteady :=
        fun c' hc' => h c' (List.mem_cons_of_mem _ hc')
      rw [List.map_cons, textIn_cons, textIn_cons, Command.isOn_firstChange, ih hcs]
      cases hon : c.isOn p with
      | false => rfl
      | true =>
          have hsteady : c.IsSteady := h c (List.mem_cons_self ..) hon
          rw [if_pos rfl, if_pos rfl, Command.textAfter_firstChange_of_isSteady hsteady]

/-! ## One report -/

namespace Server

variable (s : Server)

theorem get?_documents_keepText (u : Uri) (text : String) (p : Path) :
    (s.keepText u text).documents.get? p =
      if u.toBytePath?.any (fun q => p.same q) then some text else s.documents.get? p := by
  rw [keepText]
  cases u.toBytePath? with
  | none => rfl
  | some q =>
      show (s.documents.insert q text).get? p = _
      rw [PathMap.get?_insert, Option.any_some, Path.same]
      simp only [beq_iff_eq]

theorem get?_documents_forget (u : Uri) (p : Path) :
    (s.forget u).documents.get? p =
      if u.toBytePath?.any (fun q => p.same q) then none else s.documents.get? p := by
  rw [forget]
  cases u.toBytePath? with
  | none => rfl
  | some q =>
      show (s.documents.erase q).get? p = _
      rw [PathMap.get?_erase, Option.any_some, Path.same]
      simp only [beq_iff_eq]

theorem warmUp_keeps (host : Host) :
    (s.warmUp host).1.phase = s.phase ∧ (s.warmUp host).1.documents = s.documents := by
  unfold warmUp
  cases s.root with
  | none => exact ⟨rfl, rfl⟩
  | some root =>
      dsimp only
      split
      · cases (Compiler.ofSettings s.settings.compiler).compile host.start root <;> exact ⟨rfl, rfl⟩
      · exact ⟨rfl, rfl⟩

/-- A document that is no file has no copy. -/
theorem keepText_of_toPath?_eq_none {u : Uri} (h : u.toPath? = none) (text : String) :
    s.keepText u text = s := by
  have hbytes : u.toBytePath? = none := by
    rw [Uri.toPath?, Option.map_eq_none_iff] at h
    rw [Uri.toBytePath?, h, Option.map_none]
  rw [keepText, hbytes]

/-- The settings that are read again when a document is saved have no influence on the copies. -/
theorem documents_save (disk : Disk) (env : Environment) (u : Uri) (text : Option String) :
    (s.save disk env u text).1.documents =
      (match text with
        | some t => s.keepText u t
        | none => s).documents := by
  unfold save
  cases hpath : u.toPath? with
  | none =>
      cases text with
      | none => rfl
      | some t => exact congrArg Server.documents (s.keepText_of_toPath?_eq_none hpath t).symm
  | some p => cases text <;> rfl

/-- A command changes the copies of the document it reports on, and no others.  Of several changes
the first one stays. -/
theorem get?_documents_serve (host : Host) (env : Environment) (c : Command) (p : Path) :
    (s.serve host env c).1.documents.get? p =
      if c.isOn p then c.firstChange.textAfter (s.documents.get? p) else s.documents.get? p := by
  cases c with
  | opened u t => exact s.get?_documents_keepText u t p
  | changed u ts =>
      cases ts with
      | nil => exact (ite_self _).symm
      | cons t ts => exact s.get?_documents_keepText u t p
  | saved u text =>
      show (s.save host.disk env u text).1.documents.get? p = _
      rw [documents_save]
      cases text with
      | none => exact (ite_self _).symm
      | some t => exact s.get?_documents_keepText u t p
  | closed u => exact s.get?_documents_forget u p
  | started => exact congrArg (PathMap.get? · p) (s.warmUp_keeps host).2
  | _ => rfl

/-! ### Phases -/

theorem phase_keepText (u : Uri) (text : String) : (s.keepText u text).phase = s.phase := by
  unfold keepText
  cases u.toBytePath? <;> rfl

theorem phase_save (disk : Disk) (env : Environment) (u : Uri) (text : Option String) :
    (s.save disk env u text).1.phase = s.phase := by
  unfold save
  cases u.toPath? with
  | none => rfl
  | some p =>
      cases text with
      | none => rfl
      | some t => exact s.phase_keepText u t

/-- A running server goes on running, whatever it serves. -/
theorem phase_serve {s : Server} (hs : s.phase = .running) (host : Host) (env : Environment)
    (c : Command) : (s.serve host env c).1.phase = .running := by
  cases c with
  | start root => rfl
  | started => exact (s.warmUp_keeps host).1.trans hs
  | opened u t => exact (s.phase_keepText u t).trans hs
  | changed u ts =>
      cases ts with
      | nil => exact hs
      | cons t ts => exact (s.phase_keepText u t).trans hs
  | saved u text => exact (s.phase_save host.disk env u text).trans hs
  | closed u =>
      show (s.forget u).phase = _
      unfold forget
      cases u.toBytePath? <;> exact hs
  | _ => exact hs

end Server

/-! ## Reports as they arrive -/

/-- The notifications by which an editor reports on documents. -/
def reportMethods : List String :=
  ["textDocument/didOpen", "textDocument/didChange", "textDocument/didSave",
    "textDocument/didClose"]

/-- A report on a document: the notification, the command in it, and the files and the surroundings
when it arrives. -/
structure Report where
  message : Message
  command : Command
  host : Host
  environment : Environment
  isReport : message.method ∈ reportMethods
  isNotification : message.kind = .notification
  isUnderstood : Command.ofMessage? message = some command

namespace Server

/-- The server after reports, one after the other; nothing if it did not take one. -/
def hear (s : Server) (reports : List Report) : Option Server :=
  reports.foldlM (fun s r => (s.receive r.host r.environment r.message).map Prod.fst) s

/-- A running server serves the command of a report. -/
theorem receive_report {s : Server} (hs : s.phase = .running) (r : Report) :
    s.receive r.host r.environment r.message =
      some (s.serve r.host r.environment r.command) := by
  have hmethod : methodKind? r.message.method = some .notification ∧
      r.message.method.startsWith "$/" = false ∧ r.message.method ≠ "exit" ∧
      r.message.method ≠ "initialize" ∧ r.message.method ≠ "shutdown" := by
    have hmem := r.isReport
    generalize r.message.method = method at hmem ⊢
    simp only [reportMethods, List.mem_cons, List.not_mem_nil, or_false] at hmem
    rcases hmem with rfl | rfl | rfl | rfl <;> decide +kernel
  obtain ⟨hkind, hdollar, hexit, hinitialize, hshutdown⟩ := hmethod
  have hserve : s.serveMessage r.host r.environment r.message =
      s.serve r.host r.environment r.command := by
    rw [serveMessage, hkind, r.isNotification, r.isUnderstood]
    rfl
  rw [receive, hs, hdollar, hkind, beq_eq_false_iff_ne.2 hexit, beq_eq_false_iff_ne.2 hinitialize,
    beq_eq_false_iff_ne.2 hshutdown]
  exact congrArg some hserve

/-! ## Sessions -/

/-- What a run of reports leaves behind. -/
theorem hear_copies {s : Server} (hs : s.phase = .running) (reports : List Report) :
    ∃ s', s.hear reports = some s' ∧ s'.phase = .running ∧
      ∀ p, s'.documents.get? p =
        textIn p (s.documents.get? p) (reports.map fun r => r.command.firstChange) := by
  induction reports generalizing s with
  | nil => exact ⟨s, rfl, hs, fun p => rfl⟩
  | cons r reports ih =>
      obtain ⟨s', hhear, hs', hcopies⟩ := ih (phase_serve hs r.host r.environment r.command)
      refine ⟨s', ?_, hs', fun p => ?_⟩
      · rw [hear, List.foldlM_cons, receive_report hs r]
        exact hhear
      · rw [hcopies p, get?_documents_serve, List.map_cons, textIn_cons, Command.isOn_firstChange]

/-- **A copy is the text of its document** while no report brings several changes that end in
another text than they begin with.  A running server takes all reports and goes on running.  Each of
its copies is the text of the file after the reports with their first changes alone; and that is the
text of the file after the reports as they are, if those on the file are steady.  Reports on other
files have no part in either text. -/
theorem hears_texts {s : Server} (hs : s.phase = .running) (reports : List Report) :
    ∃ s', s.hear reports = some s' ∧ s'.phase = .running ∧
      ∀ p, s'.documents.get? p =
          textIn p (s.documents.get? p) (reports.map fun r => r.command.firstChange) ∧
        ((∀ r ∈ reports, r.command.isOn p = true → r.command.IsSteady) →
          s'.documents.get? p = textIn p (s.documents.get? p) (reports.map Report.command)) := by
  obtain ⟨s', hhear, hs', hcopies⟩ := hear_copies hs reports
  refine ⟨s', hhear, hs', fun p => ⟨hcopies p, fun hsteady => ?_⟩⟩
  have hcommands : ∀ c ∈ reports.map Report.command, c.isOn p = true → c.IsSteady := by
    intro c hc
    obtain ⟨r, hr, rfl⟩ := List.mem_map.1 hc
    exact hsteady r hr
  rw [hcopies p, ← textIn_firstChange hcommands, List.map_map]
  rfl

/-! ## A sample session -/

namespace Sample

/-- The file `/w/orders.sqlx`. -/
def ordersUri : Uri :=
  ⟨"file", some ⟨"", .empty, none⟩, .segments ["w".toList, "orders.sqlx".toList], none, none⟩

/-- The path under which its text is kept. -/
def ordersPath : Path :=
  ⟨true, ["w", "orders.sqlx"]⟩

/-- The file is opened with a text. -/
def opening (text : String) : Report where
  message := ⟨.notification, "textDocument/didOpen", some (.ofFields [
    ("textDocument", .ofFields [
      ("uri", .string "file:///w/orders.sqlx"), ("languageId", .string "sqlx"),
      ("version", .ofInt 1), ("text", .string text)])])⟩
  command := .opened ordersUri text
  host := default
  environment := ⟨none, ordersPath⟩
  isReport := List.mem_cons_self
  isNotification := rfl
  isUnderstood := rfl

/-- The file is changed twice in one report. -/
def changing (first second : String) : Report where
  message := ⟨.notification, "textDocument/didChange", some (.ofFields [
    ("textDocument", .ofFields [("uri", .string "file:///w/orders.sqlx"), ("version", .ofInt 2)]),
    ("contentChanges", .ofItems [
      .ofFields [("text", .string first)], .ofFields [("text", .string second)]])])⟩
  command := .changed ordersUri [first, second]
  host := default
  environment := ⟨none, ordersPath⟩
  isReport := List.mem_cons_of_mem _ List.mem_cons_self
  isNotification := rfl
  isUnderstood := rfl

/-- A server that an editor has started. -/
def server : Server :=
  { Server.fresh with phase := .running }

end Sample

/-- Two changes that bring the same text leave that text. -/
theorem hears_texts_sample :
    ∃ s', Sample.server.hear [Sample.opening "select 1", Sample.changing "select 2" "select 2"] =
        some s' ∧ s'.documents.get? Sample.ordersPath = some "select 2" := by
  obtain ⟨s', hhear, -, htexts⟩ := hears_texts (s := Sample.server) rfl
    [Sample.opening "select 1", Sample.changing "select 2" "select 2"]
  refine ⟨s', hhear, ((htexts Sample.ordersPath).2 ?_).trans ?_⟩
  · intro r hr _
    simp only [List.mem_cons, List.not_mem_nil, or_false] at hr
    rcases hr with rfl | rfl
    · exact trivial
    · exact rfl
  · decide +kernel

/-- **Of two changes the server keeps the first.**  The document is opened and then changed twice in
one report.  The editor shows the second text, and the server keeps the first one. -/
theorem hear_keeps_first :
    ∃ s', Sample.server.hear [Sample.opening "", Sample.changing "select 1" "tags: ["] = some s' ∧
      s'.documents.get? Sample.ordersPath = some "select 1" ∧
      textIn Sample.ordersPath (Sample.server.documents.get? Sample.ordersPath)
        ([Sample.opening "", Sample.changing "select 1" "tags: ["].map Report.command) =
          some "tags: [" := by
  obtain ⟨s', hhear, -, hcopies⟩ := hear_copies (s := Sample.server) rfl
    [Sample.opening "", Sample.changing "select 1" "tags: ["]
  exact ⟨s', hhear, (hcopies Sample.ordersPath).trans (by decide +kernel), by decide +kernel⟩

end Server

end SqlxDryRun.Editor
