/-
  packages/facilitator/src/db/index.ts — `openDb` on a file whose `ledger_events` is older than the
  schema.

  1. **Reading a CHECK** — `ledgerEventTypeCheckValues`, a regular expression over the text of a CREATE
     TABLE statement.
  2. **Healing** — `healLedgerEventTypeCheck`: rename, create anew, copy every row through the new
     CHECK, drop, in one transaction.
  3. **What is read** — `ledgerEventTypeCheckValues_ledgerTableSql`: the values of a statement written
     as the schema writes it.
  4. **What is lost** — `heal_lossless_iff`: a rebuild keeps what the new CHECK lists, no more.

  A table is its text in `sqlite_master`, the values its CHECK permits and its rows.  SQLite's reading
  of the text is not modelled, so the first two are independent.
-/
import Hundi.Facilitator.LedgerChain
import Hundi.Lib.JsText

namespace Hundi

open Js

/-! ## Reading a CHECK -/

/-- The rest behind a word of the pattern, in any case (flag `i`). -/
def dropWord (word text : JsString) : Option JsString :=
  if asciiLower (text.take word.length) = word then some (text.drop word.length) else none

/-- The rest behind `\s+`. -/
def dropSpaces1 (text : JsString) : Option JsString :=
  match text with
  | [] => none
  | c :: rest => if isWhiteSpace c then some (rest.dropWhile isWhiteSpace) else none

/-- `[^)]*\(([^)]*)\)`: what the group matches.  The first part is greedy, so it ends at the last
    parenthesis that opens before the first one that closes. -/
def innerGroup (text : JsString) : Option JsString :=
  let body := text.takeWhile (· ≠ 0x29)
  if body.length = text.length then none
  else if 0x28 ∈ body then some (body.rtakeWhile (· ≠ 0x28)) else none

/-- `/event_type\s+TEXT\s+NOT\s+NULL\s+CHECK\s*\([^)]*\(([^)]*)\)/is` at the beginning of a text: what
    its group matches. -/
def matchCheckAt (text : JsString) : Option JsString := do
  let text ← dropWord (js "event_type") text
  let text ← dropSpaces1 text
  let text ← dropWord (js "text") text
  let text ← dropSpaces1 text
  let text ← dropWord (js "not") text
  let text ← dropSpaces1 text
  let text ← dropWord (js "null") text
  let text ← dropSpaces1 text
  let text ← dropWord (js "check") text
  let text ← dropWord (js "(") (text.dropWhile isWhiteSpace)
  innerGroup text

/-- The same anywhere in a text: the first place where it matches. -/
def matchCheck (text : JsString) : Option JsString := text.tails.findSome? matchCheckAt

/-- `matchAll(/'([^']+)'/g)`: outside of quotes, or inside of one with what it has so far. -/
def quotedValues : Option JsString → JsString → List JsString
  | _, [] => []
  | none, c :: text => if c = 0x27 then quotedValues (some []) text else quotedValues none text
  | some value, c :: text =>
    if c ≠ 0x27 then quotedValues (some (value ++ [c])) text
    -- two quotes in a row match nothing, and the second may open a value
    else if value.isEmpty then quotedValues (some []) text
    else value :: quotedValues none text

/-- `ledgerEventTypeCheckValues(createTableSql)`. -/
def ledgerEventTypeCheckValues (createTableSql : JsString) : List JsString :=
  quotedValues none ((matchCheck createTableSql).getD [])

/-! ## Tables -/

/-- Values as a line of the CHECK lists them. -/
def quotedLine (values : List JsString) : JsString :=
  join (js ",") (values.map fun v => js "'" ++ v ++ js "'")

/-- The lines between the parentheses of the CHECK. -/
def checkBody (lines : List (List JsString)) : JsString :=
  js "\n    " ++ (join (js ",\n    ") (lines.map quotedLine) ++ js "\n  ")

/-- The text of a `ledger_events` whose CHECK lists some lines of values, as schema.sql writes it and
    SQLite stores it. -/
def ledgerTableSql (lines : List (List JsString)) : JsString :=
  js "CREATE TABLE ledger_events (\n  seq INTEGER PRIMARY KEY AUTOINCREMENT,\n  " ++
    (js "event_type TEXT NOT NULL CHECK(" ++ (js "event_type IN " ++ js "(" ++
      checkBody lines ++ js ")" ++
      (js "),\n  settlement_id TEXT,\n  actor TEXT NOT NULL,\n  payload TEXT NOT NULL,\n" ++
        js "  prev_hash TEXT NOT NULL,\n  row_hash TEXT NOT NULL,\n" ++
        js "  created_at INTEGER NOT NULL DEFAULT (unixepoch())\n)")))

/-- The CHECK of schema.sql. -/
def schemaLines : List (List JsString) :=
  [[LedgerEventType.mandate_registered, .mandate_revoked],
    [.verify_passed, .verify_rejected],
    [.approval_requested, .approval_granted, .approval_rejected, .approval_expired],
    [.settlement_created],
    [.attempt_initiated, .attempt_superseded],
    [.payment_captured, .payment_failed, .payment_link_issued],
    [.anomaly_refund_issued, .refund_issued],
    [.webhook_received, .webhook_rejected],
    [.reconciliation_flagged],
    [.agent_decision],
    [.settlement_abandoned]].map fun line => line.map LedgerEventType.text

/-- Its values. -/
def schemaEventTypes : List JsString := schemaLines.flatten

/-- A row of `ledger_events` with all its columns. -/
structure LedgerEventRow extends Stored.Row where
  createdAt : Int

/-- A `ledger_events` table.  SQLite keeps its CHECK and its primary key. -/
structure LedgerTable where
  sql : JsString
  allowed : List JsString
  rows : List LedgerEventRow
  checked : ∀ row ∈ rows, row.eventType ∈ allowed
  keyed : (rows.map (·.seq)).Nodup

/-- The table schema.sql creates. -/
def LedgerTable.fresh : LedgerTable where
  sql := ledgerTableSql schemaLines
  allowed := schemaEventTypes
  rows := []
  checked := fun _ h => nomatch h
  keyed := List.nodup_nil

/-- An INSERT with an explicit `seq`. -/
def LedgerTable.insert (table : LedgerTable) (row : LedgerEventRow) : Except JsString LedgerTable :=
  if hcheck : row.eventType ∉ table.allowed then .error (js "CHECK constraint failed")
  else if hkey : row.seq ∈ table.rows.map (·.seq) then
    .error (js "UNIQUE constraint failed: ledger_events.seq")
  else .ok { table with
    rows := table.rows ++ [row]
    checked := by
      intro r hr
      rcases List.mem_append.mp hr with hr | hr
      · exact table.checked r hr
      · rw [List.mem_singleton.mp hr]
        exact not_not.mp hcheck
    keyed := by
      rw [List.map_append, List.map_singleton, List.nodup_append_comm, List.singleton_append,
        List.nodup_cons]
      exact ⟨hkey, table.keyed⟩ }

/-- The part of the database that `healLedgerEventTypeCheck` works on. -/
structure LedgerDb where
  ledgerEvents : Option LedgerTable
  ledgerEventsOld : Option LedgerTable
  /-- The append-only triggers `ledger_events_no_update` and `ledger_events_no_delete`. -/
  noUpdate : Bool
  noDelete : Bool

/-- `db.exec(SCHEMA_SQL)`: every statement is `IF NOT EXISTS`. -/
def execSchema (db : LedgerDb) : LedgerDb :=
  { db with ledgerEvents := some (db.ledgerEvents.getD .fresh), noUpdate := true, noDelete := true }

/-- `INSERT INTO ledger_events (…) SELECT … FROM ledger_events_old`. -/
def copyRows (table : LedgerTable) (rows : List LedgerEventRow) : Except JsString LedgerTable :=
  rows.foldlM LedgerTable.insert table

/-- The statements of the rebuild, inside its transaction. -/
def rebuildLedger (db : LedgerDb) (live : LedgerTable) : Except JsString LedgerDb :=
  let db := { db with noUpdate := false, noDelete := false }
  match db.ledgerEventsOld with
  | some _ => .error (js "there is already another table or index with this name: ledger_events_old")
  | none => do
    let db := execSchema { db with ledgerEvents := none, ledgerEventsOld := some live }
    let table ← copyRows (db.ledgerEvents.getD .fresh) live.rows
    return { db with ledgerEvents := some table, ledgerEventsOld := none }

/-- `healLedgerEventTypeCheck(db)`; an error rolls the transaction back and is thrown on. -/
def healLedgerEventTypeCheck (db : LedgerDb) : Except JsString LedgerDb :=
  match db.ledgerEvents with
  | none => .ok db
  | some live =>
    let allowed := ledgerEventTypeCheckValues (ledgerTableSql schemaLines)
    let present := ledgerEventTypeCheckValues live.sql
    if allowed.any fun v => !present.contains v then rebuildLedger db live else .ok db

/-- `openDb(path)`, as far as it concerns `ledger_events`. -/
def openDb (db : LedgerDb) : Except JsString LedgerDb := healLedgerEventTypeCheck (execSchema db)

/-! ## What the pattern reads -/

/-- A value whose quoted form the pattern reads as it is. -/
structure PlainValue (value : JsString) : Prop where
  ne_nil : value ≠ []
  quote : 0x27 ∉ value
  opening : 0x28 ∉ value
  closing : 0x29 ∉ value

theorem dropWord_append {word text : JsString} (h : asciiLower text = word) (rest : JsString) :
    dropWord word (text ++ rest) = some rest := by
  have hlen : word.length = text.length := by
    rw [← h, asciiLower, List.length_map]
  rw [dropWord, hlen, List.take_left, List.drop_left, if_pos h]

/-- A space in front of a word is all there is to drop. -/
theorem dropSpaces1_word {word : JsString} (h : (word.head?.any fun c => !isWhiteSpace c) = true)
    (rest : JsString) : dropSpaces1 (0x20 :: (word ++ rest)) = some (word ++ rest) := by
  cases word with
  | nil => exact nomatch h
  | cons c word =>
    have hc : ¬ isWhiteSpace c = true := by
      intro hspace
      simp [hspace] at h
    have hdrop : (c :: (word ++ rest)).dropWhile isWhiteSpace = c :: (word ++ rest) := by
      rw [List.dropWhile_cons, if_neg hc]
    rw [List.cons_append, dropSpaces1, hdrop]
    rfl

/-- Inside of a quote everything but a quote is read. -/
theorem quotedValues_inside (acc value rest : JsString) (h : 0x27 ∉ value) :
    quotedValues (some acc) (value ++ rest) = quotedValues (some (acc ++ value)) rest := by
  induction value generalizing acc with
  | nil => rw [List.nil_append, List.append_nil]
  | cons c value ih =>
    obtain ⟨hc, hvalue⟩ := not_or.mp (List.mem_cons.not.mp h)
    rw [List.cons_append, quotedValues, if_pos (Ne.symm hc), ih _ hvalue, List.append_assoc]
    rfl

/-- A text the values of which are read in one, whatever follows it. -/
def Reads (text : JsString) (values : List JsString) : Prop :=
  ∀ rest, quotedValues none (text ++ rest) = values ++ quotedValues none rest

theorem Reads.append {s t : JsString} {vs ws : List JsString} (hs : Reads s vs) (ht : Reads t ws) :
    Reads (s ++ t) (vs ++ ws) := by
  intro rest
  rw [List.append_assoc, hs, ht, List.append_assoc]

/-- Outside of quotes nothing is read. -/
theorem reads_unquoted {text : JsString} (h : 0x27 ∉ text) : Reads text [] := by
  intro rest
  induction text with
  | nil => rfl
  | cons c text ih =>
    obtain ⟨hc, htext⟩ := not_or.mp (List.mem_cons.not.mp h)
    rw [List.cons_append, quotedValues, if_neg (Ne.symm hc), ih htext]

theorem reads_quoted {value : JsString} (h : PlainValue value) :
    Reads (js "'" ++ value ++ js "'") [value] := by
  intro rest
  have hquote : js "'" = [0x27] := rfl
  rw [hquote, List.append_assoc, List.append_assoc, List.singleton_append, quotedValues, if_pos rfl,
    quotedValues_inside _ _ _ h.quote, List.singleton_append, quotedValues,
    if_neg (not_not.mpr rfl), List.nil_append,
    if_neg (by rw [List.isEmpty_iff]; exact h.ne_nil), List.singleton_append]

/-- A list joined without quotes is read entry by entry. -/
theorem reads_join {α : Type} {sep : JsString} (hsep : 0x27 ∉ sep) {text : α → JsString}
    {values : α → List JsString} {entries : List α} (h : ∀ e ∈ entries, Reads (text e) (values e)) :
    Reads (join sep (entries.map text)) (entries.flatMap values) := by
  cases entries with
  | nil => exact reads_unquoted List.not_mem_nil
  | cons first entries =>
    obtain ⟨hfirst, hentries⟩ := List.forall_mem_cons.mp h
    clear h
    rw [List.map_cons, join, List.flatMap_cons]
    refine hfirst.append ?_
    induction entries with
    | nil => exact reads_unquoted List.not_mem_nil
    | cons e entries ih =>
      obtain ⟨he, hentries⟩ := List.forall_mem_cons.mp hentries
      rw [List.map_cons, List.flatMap_cons, List.flatMap_cons]
      have hpart : Reads (sep ++ text e) (values e) := (reads_unquoted hsep).append he
      exact hpart.append (ih hentries)

theorem reads_quotedLine {values : List JsString} (h : ∀ v ∈ values, PlainValue v) :
    Reads (quotedLine values) values := by
  have hsep : (0x27 : UInt16) ∉ js "," := by decide
  have hjoin := reads_join hsep fun v hv => reads_quoted (h v hv)
  rw [List.flatMap_singleton'] at hjoin
  exact hjoin

/-- The group between the parentheses. -/
theorem innerGroup_eq {before body : JsString} (hbefore : 0x29 ∉ before)
    (hbody : 0x28 ∉ body ∧ 0x29 ∉ body) (rest : JsString) :
    innerGroup (before ++ js "(" ++ body ++ js ")" ++ rest) = some body := by
  have hopen : js "(" = [0x28] := rfl
  have hclose : js ")" = [0x29] := rfl
  have hall : ∀ c ∈ before ++ [0x28] ++ body, (decide (c ≠ 0x29)) = true := by
    intro c hc
    refine decide_eq_true fun heq => ?_
    rw [heq, List.mem_append, List.mem_append, List.mem_singleton] at hc
    rcases hc with (hc | hc) | hc
    · exact hbefore hc
    · exact absurd hc (by decide)
    · exact hbody.2 hc
  have htake : (before ++ js "(" ++ body ++ js ")" ++ rest).takeWhile (· ≠ 0x29) =
      before ++ [0x28] ++ body := by
    rw [hopen, hclose, List.append_assoc, List.takeWhile_append_of_pos hall]
    simp
  have hbody' : ∀ c ∈ body.reverse, (decide (c ≠ 0x28)) = true :=
    fun c hc => decide_eq_true fun heq => hbody.1 (heq ▸ List.mem_reverse.mp hc)
  have hlast : (before ++ [0x28] ++ body).rtakeWhile (· ≠ 0x28) = body := by
    rw [List.rtakeWhile, List.reverse_append, List.takeWhile_append_of_pos hbody']
    simp
  rw [innerGroup, htake, hlast, if_neg (by simp [hopen, hclose]), if_pos (by simp)]

/-- Two texts differ where both have a unit. -/
def conflicts (word text : JsString) : Bool := (List.zipWith (· != ·) (asciiLower text) word).any id

theorem dropWord_eq_none {word text : JsString} (h : conflicts word text = true) (rest : JsString) :
    dropWord word (text ++ rest) = none := by
  have hne : asciiLower ((text ++ rest).take word.length) ≠ word := by
    induction word generalizing text with
    | nil => simp [conflicts] at h
    | cons w word ih =>
      cases text with
      | nil => simp [conflicts, asciiLower] at h
      | cons c text =>
        have hsplit : conflicts (w :: word) (c :: text) =
            ((asciiLower [c] != [w]) || conflicts word text) := by
          simp [conflicts, asciiLower, bne]
        rw [hsplit, Bool.or_eq_true] at h
        have hcons : asciiLower (((c :: text) ++ rest).take (w :: word).length) =
            asciiLower [c] ++ asciiLower ((text ++ rest).take word.length) := rfl
        rw [hcons]
        intro heq
        obtain ⟨hhead, htail⟩ := List.cons.inj heq
        rcases h with h | h
        · refine absurd ?_ (bne_iff_ne.mp h)
          rw [← hhead]
          rfl
        · exact ih h htail
  rw [dropWord, if_neg hne]

/-- The pattern is not found where its first word conflicts with every place. -/
theorem matchCheck_skip {header : JsString}
    (h : (header.tails.all fun s => s.isEmpty || conflicts (js "event_type") s) = true)
    (rest : JsString) : matchCheck (header ++ rest) = matchCheck rest := by
  induction header with
  | nil => rfl
  | cons c header ih =>
    rw [List.tails_cons, List.all_cons, Bool.and_eq_true] at h
    obtain ⟨hhead, htail⟩ := h
    have hnone : matchCheckAt (c :: (header ++ rest)) = none := by
      have hword : dropWord (js "event_type") ((c :: header) ++ rest) = none :=
        dropWord_eq_none hhead rest
      rw [List.cons_append] at hword
      rw [matchCheckAt, hword]
      rfl
    rw [List.cons_append, matchCheck, List.tails_cons, List.findSome?_cons, hnone]
    exact ih htail

theorem matchCheck_of_at {text group : JsString} (h : matchCheckAt text = some group) :
    matchCheck text = some group := by
  cases text with
  | nil => exact nomatch h
  | cons c text => rw [matchCheck, List.tails_cons, List.findSome?_cons, h]

/-- The words of the pattern as the schema writes them. -/
theorem matchCheckAt_column (rest : JsString) :
    matchCheckAt (js "event_type TEXT NOT NULL CHECK(" ++ rest) = innerGroup rest := by
  have hsplit : js "event_type TEXT NOT NULL CHECK(" = js "event_type" ++ 0x20 :: (js "TEXT" ++
      0x20 :: (js "NOT" ++ 0x20 :: (js "NULL" ++ 0x20 :: (js "CHECK" ++ js "(")))) := by decide
  have hopen : (js "(" ++ rest).dropWhile isWhiteSpace = js "(" ++ rest := rfl
  simp only [hsplit, List.append_assoc, List.cons_append, matchCheckAt, Option.bind_eq_bind]
  rw [dropWord_append (by decide), Option.bind_some, dropSpaces1_word (by decide),
    Option.bind_some, dropWord_append (by decide), Option.bind_some,
    dropSpaces1_word (by decide), Option.bind_some, dropWord_append (by decide),
    Option.bind_some, dropSpaces1_word (by decide), Option.bind_some,
    dropWord_append (by decide), Option.bind_some, dropSpaces1_word (by decide),
    Option.bind_some, dropWord_append (by decide), Option.bind_some, hopen,
    dropWord_append (by decide), Option.bind_some]

theorem not_mem_join {sep : JsString} {c : UInt16} (hsep : c ∉ sep) {parts : List JsString}
    (h : ∀ part ∈ parts, c ∉ part) : c ∉ join sep parts := by
  cases parts with
  | nil => exact List.not_mem_nil
  | cons first parts =>
    rw [join, List.mem_append, List.mem_flatMap]
    rintro (hc | ⟨part, hpart, hc⟩)
    · exact h first (List.mem_cons_self ..) hc
    · rcases List.mem_append.mp hc with hc | hc
      · exact hsep hc
      · exact h part (List.mem_cons_of_mem first hpart) hc

/-- A unit that neither the layout nor a value has is not between the parentheses. -/
theorem not_mem_checkBody {c : UInt16} (hlayout : c ∉ js "\n    " ++ js ",\n    " ++ js "\n  " ++ js "'")
    {lines : List (List JsString)} (h : ∀ line ∈ lines, ∀ v ∈ line, c ∉ v) : c ∉ checkBody lines := by
  rw [List.mem_append, List.mem_append, List.mem_append] at hlayout
  push Not at hlayout
  obtain ⟨⟨⟨hfirst, hbreak⟩, hlast⟩, hquote⟩ := hlayout
  have hcomma : c ∉ js "," := fun hc => hbreak (List.mem_of_mem_take (i := 1) hc)
  have hlines : c ∉ join (js ",\n    ") (lines.map quotedLine) := by
    refine not_mem_join hbreak (List.forall_mem_map.mpr fun line hline => ?_)
    refine not_mem_join hcomma (List.forall_mem_map.mpr fun v hv => ?_)
    rw [List.mem_append, List.mem_append]
    rintro ((hc | hc) | hc)
    · exact hquote hc
    · exact h line hline v hv hc
    · exact hquote hc
  rw [checkBody, List.mem_append, List.mem_append]
  rintro (hc | hc | hc)
  · exact hfirst hc
  · exact hlines hc
  · exact hlast hc

/-- **What a statement written as the schema's lists is what is read off it**, for plain values. -/
theorem ledgerEventTypeCheckValues_ledgerTableSql {lines : List (List JsString)}
    (h : ∀ line ∈ lines, ∀ v ∈ line, PlainValue v) :
    ledgerEventTypeCheckValues (ledgerTableSql lines) = lines.flatten := by
  have hheader : ((js "CREATE TABLE ledger_events (\n  seq INTEGER PRIMARY KEY AUTOINCREMENT,\n  ").tails.all
      fun s => s.isEmpty || conflicts (js "event_type") s) = true := by decide +kernel
  have hbody : 0x28 ∉ checkBody lines ∧ 0x29 ∉ checkBody lines :=
    ⟨not_mem_checkBody (by decide) fun line hline v hv => (h line hline v hv).opening,
      not_mem_checkBody (by decide) fun line hline v hv => (h line hline v hv).closing⟩
  have hgroup : matchCheck (ledgerTableSql lines) = some (checkBody lines) := by
    rw [ledgerTableSql, matchCheck_skip hheader]
    refine matchCheck_of_at ?_
    rw [matchCheckAt_column]
    exact innerGroup_eq (by decide) hbody _
  have hreads : Reads (checkBody lines) ([] ++ (lines.flatMap id ++ [])) :=
    (reads_unquoted (by decide)).append
      ((reads_join (by decide) fun line hline => reads_quotedLine (h line hline)).append
        (reads_unquoted (by decide)))
  have hall := hreads []
  rw [List.append_nil, quotedValues, List.append_nil, List.append_nil, List.nil_append,
    List.flatMap_id] at hall
  rw [ledgerEventTypeCheckValues, hgroup, Option.getD_some, hall]

/-! ## What a rebuild keeps -/

/-- A row of an event type can be stored, under any key that is free. -/
def LedgerTable.Stores (table : LedgerTable) (eventType : JsString) : Prop :=
  ∀ row : LedgerEventRow, row.eventType = eventType → row.seq ∉ table.rows.map (·.seq) →
    ∃ table', table.insert row = .ok table'

theorem LedgerTable.insert_ok {table : LedgerTable} {row : LedgerEventRow}
    (hcheck : row.eventType ∈ table.allowed) (hkey : row.seq ∉ table.rows.map (·.seq)) :
    ∃ table', table.insert row = .ok table' ∧ table'.rows = table.rows ++ [row] ∧
      table'.allowed = table.allowed ∧ table'.sql = table.sql := by
  unfold LedgerTable.insert
  rw [dif_neg (not_not.mpr hcheck), dif_neg hkey]
  exact ⟨_, rfl, rfl, rfl, rfl⟩

theorem LedgerTable.insert_error {table : LedgerTable} {row : LedgerEventRow}
    (hcheck : row.eventType ∉ table.allowed) : ∃ error, table.insert row = .error error := by
  unfold LedgerTable.insert
  rw [dif_pos hcheck]
  exact ⟨_, rfl⟩

theorem exists_above (keys : List Int) : ∃ n, ∀ k ∈ keys, k < n := by
  induction keys with
  | nil => exact ⟨0, fun k hk => nomatch hk⟩
  | cons key keys ih =>
    obtain ⟨n, hn⟩ := ih
    refine ⟨max (key + 1) n, List.forall_mem_cons.mpr ⟨?_, fun k hk => ?_⟩⟩
    · omega
    · have := hn k hk
      omega

theorem LedgerTable.stores_iff {table : LedgerTable} {eventType : JsString} :
    table.Stores eventType ↔ eventType ∈ table.allowed := by
  constructor
  · intro h
    by_contra hcheck
    obtain ⟨seq, habove⟩ := exists_above (table.rows.map (·.seq))
    have hseq : seq ∉ table.rows.map (·.seq) := fun hmem => lt_irrefl seq (habove seq hmem)
    obtain ⟨table', hok⟩ := h ⟨⟨seq, eventType, none, [], [], [], []⟩, 0⟩ rfl hseq
    obtain ⟨error, herror⟩ : ∃ error, table.insert ⟨⟨seq, eventType, none, [], [], [], []⟩, 0⟩ =
        .error error := table.insert_error hcheck
    rw [herror] at hok
    exact nomatch hok
  · intro hcheck row htype hkey
    obtain ⟨table', hok, -⟩ := LedgerTable.insert_ok (htype ▸ hcheck) hkey
    exact ⟨table', hok⟩

/-- A copy whose rows the CHECK lists goes through and is complete. -/
theorem copyRows_ok {table : LedgerTable} {rows : List LedgerEventRow}
    (hcheck : ∀ row ∈ rows, row.eventType ∈ table.allowed)
    (hkeyed : ((table.rows ++ rows).map (·.seq)).Nodup) :
    ∃ table', copyRows table rows = .ok table' ∧ table'.rows = table.rows ++ rows ∧
      table'.allowed = table.allowed ∧ table'.sql = table.sql := by
  induction rows generalizing table with
  | nil => exact ⟨table, rfl, (List.append_nil _).symm, rfl, rfl⟩
  | cons row rows ih =>
    obtain ⟨hrow, hrows⟩ := List.forall_mem_cons.mp hcheck
    have hkey : row.seq ∉ table.rows.map (·.seq) := by
      rw [List.map_append, List.nodup_append] at hkeyed
      intro hmem
      exact hkeyed.2.2 _ hmem _ (List.mem_map_of_mem (List.mem_cons_self ..)) rfl
    obtain ⟨next, hinsert, hnext, hallowed, hsql⟩ := LedgerTable.insert_ok hrow hkey
    have hrows' : ∀ r ∈ rows, r.eventType ∈ next.allowed := by
      rw [hallowed]
      exact hrows
    have hkeyed' : ((next.rows ++ rows).map (·.seq)).Nodup := by
      rw [hnext, List.append_assoc]
      exact hkeyed
    obtain ⟨table', hcopy, hall, hallowed', hsql'⟩ := ih hrows' hkeyed'
    refine ⟨table', ?_, ?_, hallowed'.trans hallowed, hsql'.trans hsql⟩
    · rw [copyRows, List.foldlM_cons, hinsert]
      exact hcopy
    · rw [hall, hnext, List.append_assoc]
      rfl

/-- One row that the CHECK does not list fails the whole copy. -/
theorem copyRows_error {table : LedgerTable} {rows : List LedgerEventRow} {row : LedgerEventRow}
    (hrow : row ∈ rows) (hcheck : row.eventType ∉ table.allowed) :
    ∃ error, copyRows table rows = .error error := by
  induction rows generalizing table with
  | nil => exact nomatch hrow
  | cons first rows ih =>
    rw [copyRows, List.foldlM_cons]
    cases hinsert : table.insert first with
    | error error => exact ⟨error, rfl⟩
    | ok next =>
      have hfirst : first.eventType ∈ table.allowed := by
        by_contra hno
        obtain ⟨error, herror⟩ := table.insert_error hno
        rw [herror] at hinsert
        exact nomatch hinsert
      have hkept : next.allowed = table.allowed := by
        unfold LedgerTable.insert at hinsert
        rw [dif_neg (not_not.mpr hfirst)] at hinsert
        split at hinsert
        · exact nomatch hinsert
        · rw [← Except.ok.inj hinsert]
      rcases List.mem_cons.mp hrow with rfl | hrow
      · exact absurd hfirst hcheck
      · exact ih hrow (hkept ▸ hcheck)

/-! ## Opening an older file -/

/-- The columns that verification reads. -/
def LedgerTable.stored (table : LedgerTable) : List Stored.Row := table.rows.map (·.toRow)

/-- The text of the table's CHECK, as the pattern reads it, lists every value of the schema. -/
def ReadsCurrent (table : LedgerTable) : Prop :=
  ∀ v ∈ schemaEventTypes, v ∈ ledgerEventTypeCheckValues table.sql

/-- What opening keeps of a table: the same rows, with the same verdict on them; the event types of the
    schema and those called present can be stored; a second opening changes nothing. -/
structure KeepsLedger (table : LedgerTable) (present : List JsString) (db' : LedgerDb)
    (table' : LedgerTable) : Prop where
  opened : db'.ledgerEvents = some table'
  rows : table'.rows = table.rows
  verdict : ∀ crypto, Stored.verifyLedger crypto table'.stored = Stored.verifyLedger crypto table.stored
  current : ∀ v ∈ schemaEventTypes, table'.Stores v
  present : ∀ v ∈ present, table'.Stores v
  again : openDb db' = .ok db'

/-- Opening an older file succeeds and keeps its ledger. -/
def LosesNothing (table : LedgerTable) (present : List JsString) (noUpdate noDelete : Bool) : Prop :=
  ∃ db' table', openDb ⟨some table, none, noUpdate, noDelete⟩ = .ok db' ∧
    KeepsLedger table present db' table'

theorem schemaLines_plain : ∀ line ∈ schemaLines, ∀ v ∈ line, PlainValue v := by
  have hall : (schemaLines.all fun line => line.all fun v =>
      !v.isEmpty && !v.contains 0x27 && !v.contains 0x28 && !v.contains 0x29) = true := by decide +kernel
  intro line hline v hv
  have hv := List.all_eq_true.mp (List.all_eq_true.mp hall line hline) v hv
  simp only [Bool.and_eq_true, Bool.not_eq_true', List.isEmpty_eq_false_iff, List.contains_eq_mem,
    decide_eq_false_iff_not] at hv
  exact ⟨hv.1.1.1, hv.1.1.2, hv.1.2, hv.2⟩

/-- The schema's own CHECK is read as it is. -/
theorem schema_values : ledgerEventTypeCheckValues (ledgerTableSql schemaLines) = schemaEventTypes :=
  ledgerEventTypeCheckValues_ledgerTableSql schemaLines_plain

/-- A table that lists the schema's values is left alone, but for its triggers. -/
theorem openDb_of_current {table : LedgerTable} (h : ReadsCurrent table) (noUpdate noDelete : Bool) :
    openDb ⟨some table, none, noUpdate, noDelete⟩ = .ok ⟨some table, none, true, true⟩ := by
  have hnone : ((ledgerEventTypeCheckValues (ledgerTableSql schemaLines)).any fun v =>
      !(ledgerEventTypeCheckValues table.sql).contains v) = false := by
    rw [schema_values, List.any_eq_false]
    intro v hv
    rw [List.contains_iff_mem.mpr (h v hv)]
    exact Bool.false_ne_true
  have hexec : execSchema ⟨some table, none, noUpdate, noDelete⟩ = ⟨some table, none, true, true⟩ := rfl
  rw [openDb, hexec, healLedgerEventTypeCheck]
  dsimp only
  rw [hnone, if_neg Bool.false_ne_true]

/-- Any other is rebuilt. -/
theorem openDb_of_stale {table : LedgerTable} (h : ¬ ReadsCurrent table) (noUpdate noDelete : Bool) :
    openDb ⟨some table, none, noUpdate, noDelete⟩ =
      (copyRows .fresh table.rows).map fun table' => ⟨some table', none, true, true⟩ := by
  have hsome : ((ledgerEventTypeCheckValues (ledgerTableSql schemaLines)).any fun v =>
      !(ledgerEventTypeCheckValues table.sql).contains v) = true := by
    rw [schema_values, List.any_eq_true]
    by_contra hno
    refine h fun v hv => ?_
    by_contra hmissing
    refine hno ⟨v, hv, ?_⟩
    rw [Bool.not_eq_true', List.contains_eq_mem, decide_eq_false_iff_not]
    exact hmissing
  have hexec : execSchema ⟨some table, none, noUpdate, noDelete⟩ = ⟨some table, none, true, true⟩ := rfl
  rw [openDb, hexec, healLedgerEventTypeCheck]
  dsimp only
  rw [hsome, if_pos rfl]
  rfl

/-- **What healing keeps.**  Whatever types are to stay storable, between those of the rows and those
    the table permits: nothing is lost where the table is left alone and permits the schema's values,
    or is rebuilt and the schema lists them. -/
theorem losesNothing_iff {table : LedgerTable} {present : List JsString}
    (hrows : ∀ row ∈ table.rows, row.eventType ∈ present) (hpresent : ∀ v ∈ present, v ∈ table.allowed)
    (noUpdate noDelete : Bool) :
    LosesNothing table present noUpdate noDelete ↔
      (ReadsCurrent table ∧ ∀ v ∈ schemaEventTypes, v ∈ table.allowed) ∨
      (¬ ReadsCurrent table ∧ ∀ v ∈ present, v ∈ schemaEventTypes) := by
  by_cases hcurrent : ReadsCurrent table
  · have hopen := openDb_of_current hcurrent
    constructor
    · rintro ⟨db', table', hdb', hkeeps⟩
      rw [hopen] at hdb'
      obtain rfl := Except.ok.inj hdb'
      obtain rfl := Option.some.inj hkeeps.opened
      exact Or.inl ⟨hcurrent, fun v hv => LedgerTable.stores_iff.mp (hkeeps.current v hv)⟩
    · rintro (⟨-, hallowed⟩ | ⟨hno, -⟩)
      · exact ⟨_, table, hopen _ _,
          { opened := rfl
            rows := rfl
            verdict := fun _ => rfl
            current := fun v hv => LedgerTable.stores_iff.mpr (hallowed v hv)
            present := fun v hv => LedgerTable.stores_iff.mpr (hpresent v hv)
            again := hopen true true }⟩
      · exact absurd hcurrent hno
  · rw [LosesNothing]
    simp only [openDb_of_stale hcurrent]
    constructor
    · rintro ⟨db', table', hdb', hkeeps⟩
      have hcheck : ∀ row ∈ table.rows, row.eventType ∈ LedgerTable.fresh.allowed := by
        intro row hrow
        by_contra hno
        obtain ⟨error, herror⟩ := copyRows_error hrow hno
        rw [herror] at hdb'
        exact nomatch hdb'
      obtain ⟨copied, hcopy, -, hallowed, -⟩ := copyRows_ok hcheck table.keyed
      rw [hcopy] at hdb'
      obtain rfl := Except.ok.inj hdb'
      obtain rfl := Option.some.inj hkeeps.opened
      refine Or.inr ⟨hcurrent, fun v hv => ?_⟩
      have hstored := LedgerTable.stores_iff.mp (hkeeps.present v hv)
      rw [hallowed] at hstored
      exact hstored
    · rintro (⟨hyes, -⟩ | ⟨-, hlisted⟩)
      · exact absurd hyes hcurrent
      · have hcheck : ∀ row ∈ table.rows, row.eventType ∈ LedgerTable.fresh.allowed :=
          fun row hrow => hlisted _ (hrows row hrow)
        obtain ⟨table', hcopy, hcopied, hallowed, hsql⟩ := copyRows_ok hcheck table.keyed
        have hreads : ReadsCurrent table' := by
          intro v hv
          rw [hsql]
          show v ∈ ledgerEventTypeCheckValues (ledgerTableSql schemaLines)
          rw [schema_values]
          exact hv
        refine ⟨⟨some table', none, true, true⟩, table', by rw [hcopy]; rfl,
          { opened := rfl
            rows := hcopied
            verdict := fun crypto => ?_
            current := fun v hv => LedgerTable.stores_iff.mpr (hallowed ▸ hv)
            present := fun v hv => LedgerTable.stores_iff.mpr (hallowed ▸ hlisted v hv)
            again := openDb_of_current hreads true true }⟩
        rw [LedgerTable.stored, hcopied]
        rfl

/-- **When an older ledger survives the opening.**  Its table has to be left alone and permit what the
    schema lists, or the schema has to list what is in it: the types of its rows, or, for them all to
    stay storable, every type the table permits. -/
theorem heal_lossless_iff (table : LedgerTable) (noUpdate noDelete : Bool) :
    (LosesNothing table (table.rows.map (·.eventType)) noUpdate noDelete ↔
      (ReadsCurrent table ∧ ∀ v ∈ schemaEventTypes, v ∈ table.allowed) ∨
      (¬ ReadsCurrent table ∧ ∀ row ∈ table.rows, row.eventType ∈ schemaEventTypes)) ∧
    (LosesNothing table table.allowed noUpdate noDelete ↔
      (ReadsCurrent table ∧ ∀ v ∈ schemaEventTypes, v ∈ table.allowed) ∨
      (¬ ReadsCurrent table ∧ ∀ v ∈ table.allowed, v ∈ schemaEventTypes)) := by
  constructor
  · have hrows : ∀ row ∈ table.rows, row.eventType ∈ table.rows.map (·.eventType) :=
      fun row hrow => List.mem_map_of_mem hrow
    rw [losesNothing_iff hrows (List.forall_mem_map.mpr table.checked), List.forall_mem_map]
  · exact losesNothing_iff table.checked (fun v hv => hv) noUpdate noDelete

/-- A table written as the schema writes it is read as what it permits. -/
theorem readsCurrent_iff {table : LedgerTable} {lines : List (List JsString)}
    (hplain : ∀ line ∈ lines, ∀ v ∈ line, PlainValue v) (hsql : table.sql = ledgerTableSql lines)
    (hallowed : table.allowed = lines.flatten) :
    ReadsCurrent table ↔ ∀ v ∈ schemaEventTypes, v ∈ table.allowed := by
  rw [ReadsCurrent, hsql, ledgerEventTypeCheckValues_ledgerTableSql hplain, hallowed]

/-- A table from before `refund_issued`, when there was an event type `cart_proposed`, with one row of
    it. -/
def demoOldTable : LedgerTable where
  sql := ledgerTableSql [[js "mandate_registered", js "cart_proposed"], [js "payment_captured"]]
  allowed := [js "mandate_registered", js "cart_proposed", js "payment_captured"]
  rows := [⟨⟨1, js "cart_proposed", none, js "agent", js "\x7b\x7d", genesisHash, js "00"⟩, 0⟩]
  checked := by
    intro row hrow
    rw [List.mem_singleton.mp hrow]
    decide
  keyed := List.nodup_singleton _

/-- The copy meets the row and fails: the file cannot be opened. -/
theorem dropped_type_blocks_opening :
    (∃ error, openDb ⟨some demoOldTable, none, true, true⟩ = .error error) ∧
      ¬ LosesNothing demoOldTable (demoOldTable.rows.map (·.eventType)) true true := by
  have hread : ledgerEventTypeCheckValues demoOldTable.sql = demoOldTable.allowed := by decide +kernel
  have hstale : ¬ ReadsCurrent demoOldTable := by
    intro h
    have hmem := h LedgerEventType.refund_issued.text (by decide)
    rw [hread] at hmem
    exact absurd hmem (by decide)
  have hunlisted : js "cart_proposed" ∉ LedgerTable.fresh.allowed := by decide
  obtain ⟨error, herror⟩ : ∃ error, copyRows .fresh demoOldTable.rows = .error error :=
    copyRows_error (List.mem_singleton_self _) hunlisted
  have hopen : openDb ⟨some demoOldTable, none, true, true⟩ = .error error := by
    rw [openDb_of_stale hstale, herror]
    rfl
  refine ⟨⟨error, hopen⟩, ?_⟩
  rintro ⟨db', table', hdb', -⟩
  rw [hopen] at hdb'
  exact nomatch hdb'

end Hundi
