import Libsqli.Data.Ctype
import Libsqli.Sqlicon.Csv

namespace Libsqli.Sqlicon

open Libsqli.Data.Ctype
open Libsqli.Data.Numeral (isDigit)
open Libsqli.Data.Quoting

def isSimpleSqlIdentifier : List UInt8 → Bool
  | [] => false
  | c0 :: rest =>
      (isAlpha c0 || c0 == 95) && rest.all fun c => isAlnum c || c == 95

def strCaseEq (a b : List UInt8) : Bool := a.map toLower == b.map toLower

/-! `build_import_column_list`, `build_import_insert_sql` -/

/-- Pieces written one behind the other, each where the buffer has room for it
and for a terminator. -/
def fill (cap : Nat) : List (List UInt8) → List UInt8 → Option (List UInt8)
  | [], out => some out
  | piece :: pieces, out =>
      if out.length + piece.length < cap then fill cap pieces (out ++ piece)
      else none

def commaBetween (pieces : List (List UInt8)) : List (List UInt8) :=
  pieces.intersperse [comma]

def buildImportColumnList (headers : List (List UInt8)) : Option (List UInt8) :=
  if headers.all isSimpleSqlIdentifier then fill 8192 (commaBetween headers) []
  else none

/-- The field of a column: none for NULL, as for a field that is missing. -/
def importValue (field : Option (List UInt8)) : Option (List UInt8) :=
  field.filter fun text => !strCaseEq text (octets "NULL")

/-- The values that a row with these fields has in the columns. -/
def importValues (colCount : Nat) (fields : List (List UInt8)) :
    List (Option (List UInt8)) :=
  (List.range colCount).map fun i => importValue fields[i]?

def valuePieces : Option (List UInt8) → List (List UInt8)
  | none => [octets "NULL"]
  | some text =>
      [singleQuote] ::
        (text.map fun c =>
          if c = singleQuote then [singleQuote, singleQuote] else [c]) ++
        [[singleQuote]]

def valuesPieces : List (Option (List UInt8)) → List (List UInt8)
  | [] => []
  | [value] => valuePieces value
  | value :: next :: rest =>
      valuePieces value ++ [comma] :: valuesPieces (next :: rest)

def insertPieces (table : List UInt8) (headers : List (List UInt8))
    (values : List (Option (List UInt8))) : List (List UInt8) :=
  (octets "INSERT INTO " ++ table ++ octets " (") ::
    (commaBetween headers ++
      (octets ") VALUES (" :: (valuesPieces values ++ [octets ")"])))

def buildImportInsertSql (table : List UInt8) (headers : List (List UInt8))
    (values : List (Option (List UInt8))) : Option (List UInt8) :=
  if headers.all isSimpleSqlIdentifier then
    fill 32768 (insertPieces table headers values) []
  else none

/-! `command_import_csv` -/

inductive Target where
  | table
  | stage
  deriving DecidableEq

/-- The statements of the import, an INSERT with its values. -/
inductive ImportQuery where
  | beginWork
  | createStage
  | insert (target : Target) (values : List (Option (List UInt8)))
  | commitWork
  | rollbackWork
  | merge
  | dropStage
  deriving DecidableEq

/-- The connection with what has been sent over it and was accepted or not. -/
structure Client (σ : Type) where
  server : σ
  sent : List (ImportQuery × Bool)

/-- What the command finds around it: `sqli_query`, the file at a path, what
`fseek` says before and after the rows are checked, and the name made of the
process and the time. -/
structure ImportSite (σ : Type) where
  answer : List UInt8 → σ → Bool × σ
  content : List UInt8 → Option (List UInt8)
  rewinds : Bool × Bool
  stageTable : List UInt8

variable {σ : Type}

/-- `sqli_query`, and `sqli_result_destroy`. -/
def Client.query (site : ImportSite σ) (query : ImportQuery) (sql : List UInt8)
    (client : Client σ) : Bool × Client σ :=
  ((site.answer sql client.server).1,
    ⟨(site.answer sql client.server).2,
      client.sent ++ [(query, (site.answer sql client.server).1)]⟩)

/-- The values of a row, if it has no more fields than there are columns. -/
def parseImportRow (colCount : Nat) (line : List UInt8) :
    Option (List (Option (List UInt8))) :=
  match parseCsvFields line with
  | none => none
  | some fields =>
      if colCount < fields.length then none
      else some (importValues colCount fields)

/-- `validate_import_rows` on what is read behind the header. -/
def validateImportRows (colCount : Nat) (lines : List (List UInt8)) : Bool :=
  lines.all fun line => line = [] || (parseImportRow colCount line).isSome

/-- The table an INSERT names. -/
def ImportSite.named (site : ImportSite σ) (table : List UInt8) :
    Target → List UInt8
  | .table => table
  | .stage => site.stageTable

/-- The loop that imports the rows. -/
def importLoop (site : ImportSite σ) (table : List UInt8) (target : Target)
    (headers : List (List UInt8)) :
    List (List UInt8) → Client σ → ExitCode × Client σ
  | [], client => (.ok, client)
  | line :: lines, client =>
      if line = [] then importLoop site table target headers lines client
      else
        match parseImportRow headers.length line with
        | none => (.misuse, client)
        | some values =>
            match buildImportInsertSql (site.named table target) headers values with
            | none => (.misuse, client)
            | some sql =>
                match client.query site (.insert target values) sql with
                | (true, client) =>
                    importLoop site table target headers lines client
                | (false, client) => (.sqlError, client)

/-- The import in the transaction that has been begun. -/
def importInTransaction (site : ImportSite σ) (table : List UInt8)
    (headers lines : List (List UInt8)) (client : Client σ) :
    ExitCode × Client σ :=
  match importLoop site table .table headers lines client with
  | (.ok, client) =>
      match client.query site .commitWork (octets "COMMIT WORK") with
      | (true, client) => (.ok, client)
      | (false, client) => (.sqlError, client)
  | (rc, client) =>
      (rc, (client.query site .rollbackWork (octets "ROLLBACK WORK")).2)

def stageSql (table stageTable colList : List UInt8) : List UInt8 :=
  octets "SELECT " ++ colList ++ octets " FROM " ++ table ++
    octets " WHERE 1=0 INTO TEMP " ++ stageTable ++ octets " WITH NO LOG"

def mergeSql (table stageTable colList : List UInt8) : List UInt8 :=
  octets "INSERT INTO " ++ table ++ octets " (" ++ colList ++
    octets ") SELECT " ++ colList ++ octets " FROM " ++ stageTable

def mergeStage (site : ImportSite σ) (table colList : List UInt8)
    (client : Client σ) : ExitCode × Client σ :=
  let sql := mergeSql table site.stageTable colList
  if 17408 ≤ sql.length then (.misuse, client)
  else
    match client.query site .merge sql with
    | (true, client) => (.ok, client)
    | (false, client) => (.sqlError, client)

def dropStage (site : ImportSite σ) (client : Client σ) : Client σ :=
  let sql := octets "DROP TABLE " ++ site.stageTable
  if sql.length < 256 then (client.query site .dropStage sql).2 else client

/-- The import by way of a temporary table. -/
def importStaged (site : ImportSite σ) (table colList : List UInt8)
    (headers lines : List (List UInt8)) (client : Client σ) :
    ExitCode × Client σ :=
  let sql := stageSql table site.stageTable colList
  if 17408 ≤ sql.length then (.misuse, client)
  else
    match client.query site .createStage sql with
    | (false, client) => (.sqlError, client)
    | (true, client) =>
        if site.rewinds.1 = false ∨
            validateImportRows headers.length lines = false ∨
            site.rewinds.2 = false then (.misuse, client)
        else
          match importLoop site table .stage headers lines client with
          | (.ok, client) =>
              let (rc, client) := mergeStage site table colList client
              (rc, dropStage site client)
          | (rc, client) => (rc, dropStage site client)

/-- The path and the name of the table, up to white space. -/
def importArguments (arg : List UInt8) : Option (List UInt8 × List UInt8) :=
  let p := skipSpacesStr arg
  let path := p.takeWhile fun c => !isSpaceChar c
  let table :=
    (skipSpacesStr (p.drop path.length)).takeWhile fun c => !isSpaceChar c
  if p = [] ∨ 256 ≤ table.length ∨ isSimpleSqlIdentifier table = false then none
  else some (path, table)

def commandImportCsv (site : ImportSite σ) (arg : List UInt8)
    (client : Client σ) : ExitCode × Client σ :=
  match importArguments arg with
  | none => (.misuse, client)
  | some (path, table) =>
      match (site.content path).map csvReads with
      | none | some [] => (.misuse, client)
      | some (header :: lines) =>
          match parseCsvFields header with
          | none => (.misuse, client)
          | some headers =>
              let (txActive, client) :=
                client.query site .beginWork (octets "BEGIN WORK")
              match buildImportColumnList headers with
              | none => (.misuse, client)
              | some colList =>
                  if txActive then
                    importInTransaction site table headers lines client
                  else importStaged site table colList headers lines client

/-! What the statements do to a database that carries out what it accepts. -/

abbrev ImportRow := List (Option (List UInt8))

/-- The rows of the table, what an open transaction has made of them, and the
rows of the temporary table. -/
structure Database where
  rows : List ImportRow
  working : Option (List ImportRow)
  stage : List ImportRow
  deriving DecidableEq

namespace Database

def accept (db : Database) : ImportQuery → Database
  | .beginWork => { db with working := some db.rows }
  | .createStage | .dropStage => { db with stage := [] }
  | .insert .stage values => { db with stage := db.stage ++ [values] }
  | .insert .table values =>
      match db.working with
      | some rows => { db with working := some (rows ++ [values]) }
      | none => { db with rows := db.rows ++ [values] }
  | .commitWork => { db with rows := db.working.getD db.rows, working := none }
  | .rollbackWork => { db with working := none }
  | .merge =>
      match db.working with
      | some rows => { db with working := some (rows ++ db.stage) }
      | none => { db with rows := db.rows ++ db.stage }

def answered (db : Database) (sent : ImportQuery × Bool) : Database :=
  if sent.2 then db.accept sent.1 else db

def after (db : Database) (sent : List (ImportQuery × Bool)) : Database :=
  sent.foldl answered db

/-- The rows that a transaction or the temporary table holds back. -/
def held (db : Database) : Target → Option (List ImportRow)
  | .table => db.working
  | .stage => some db.stage

end Database

/-- The rows of lines that are not empty, if all of them can be imported. -/
def importRows (colCount : Nat) : List (List UInt8) → Option (List ImportRow)
  | [] => some []
  | line :: lines =>
      if line = [] then importRows colCount lines
      else
        match parseImportRow colCount line with
        | none => none
        | some values => (importRows colCount lines).map (values :: ·)

/-- The rows of a file behind its header. -/
def fileRows (content : List UInt8) : Option (List ImportRow) :=
  match csvReads content with
  | [] => none
  | header :: lines =>
      match parseCsvFields header with
      | none => none
      | some headers => importRows headers.length lines

section Runs

variable {site : ImportSite σ} {db : Database} {client : Client σ}
  {target : Target} {held : List ImportRow}

def Client.database (db : Database) (client : Client σ) : Database :=
  db.after client.sent

theorem database_query (site : ImportSite σ) (client : Client σ) (db : Database)
    (query : ImportQuery) (sql : List UInt8) :
    (client.query site query sql).2.database db =
      if (client.query site query sql).1 then
        (client.database db).accept query
      else client.database db := by
  simp only [Client.database, Client.query, Database.after, List.foldl_append,
    List.foldl_cons, List.foldl_nil, Database.answered]
  rfl

theorem database_accepted (db : Database) {query : ImportQuery}
    {sql : List UInt8} {next : Client σ} (hquery : client.query site query sql = (true, next)) :
    next.database db = (client.database db).accept query := by
  have h := database_query site client db query sql
  rw [hquery] at h
  exact h

theorem database_refused (db : Database) {query : ImportQuery}
    {sql : List UInt8} {next : Client σ} (hquery : client.query site query sql = (false, next)) :
    next.database db = client.database db := by
  have h := database_query site client db query sql
  rw [hquery] at h
  exact h

/-- Rows have been held back: all of the lines', if the loop went through. -/
structure HeldBack (target : Target) (held : List ImportRow)
    (expected : Option (List ImportRow)) (before after : Database)
    (rc : ExitCode) : Prop where
  rows : after.rows = before.rows
  working : target = .stage → after.working = before.working
  held : ∃ rows, after.held target = some rows ∧
    (rc = .ok → ∃ added, expected = some added ∧ rows = held ++ added)

theorem heldBack_none {rc : ExitCode} {expected : Option (List ImportRow)}
    (hheld : db.held target = some held) (hrc : rc ≠ .ok) :
    HeldBack target held expected db db rc :=
  ⟨rfl, fun _ => rfl, held, hheld, fun hok => absurd hok hrc⟩

theorem accept_insert (hheld : db.held target = some held)
    (values : ImportRow) :
    (db.accept (.insert target values)).rows = db.rows ∧
      (target = .stage →
        (db.accept (.insert target values)).working = db.working) ∧
      (db.accept (.insert target values)).held target =
        some (held ++ [values]) := by
  cases target with
  | table =>
      have hworking : db.working = some held := hheld
      have haccept : db.accept (.insert .table values) =
          { db with working := some (held ++ [values]) } := by
        simp only [Database.accept, hworking]
      rw [haccept]
      exact ⟨rfl, fun h => absurd h (by decide), rfl⟩
  | stage =>
      have hstage : db.stage = held := Option.some.inj hheld
      rw [← hstage]
      exact ⟨rfl, fun _ => rfl, rfl⟩

theorem importLoop_heldBack (site : ImportSite σ) (table : List UInt8)
    (headers lines : List (List UInt8))
    (hheld : (client.database db).held target = some held) :
    HeldBack target held (importRows headers.length lines)
      (client.database db)
      ((importLoop site table target headers lines client).2.database db)
      (importLoop site table target headers lines client).1 := by
  induction lines generalizing client held with
  | nil =>
      exact ⟨rfl, fun _ => rfl, held, hheld, fun _ => ⟨[], rfl, by simp⟩⟩
  | cons line lines ih =>
      rw [importLoop, importRows]
      by_cases hline : line = []
      · rw [if_pos hline, if_pos hline]
        exact ih hheld
      · rw [if_neg hline, if_neg hline]
        cases hparse : parseImportRow headers.length line with
        | none => exact heldBack_none hheld fun h => by cases h
        | some values =>
            dsimp only
            cases hsql : buildImportInsertSql (site.named table target) headers
              values with
            | none => exact heldBack_none hheld fun h => by cases h
            | some sql =>
                dsimp only
                split
                · next next hquery =>
                    have hnext := database_accepted db hquery
                    obtain ⟨hrows, hworking, hinsert⟩ :=
                      accept_insert hheld values
                    rw [← hnext] at hrows hworking hinsert
                    obtain ⟨hloopRows, hloopWorking, kept, hkept, hadded⟩ :=
                      ih hinsert
                    refine ⟨hloopRows.trans hrows, fun hstage =>
                      (hloopWorking hstage).trans (hworking hstage), kept, hkept,
                      fun hok => ?_⟩
                    obtain ⟨added, hexpected, hall⟩ := hadded hok
                    refine ⟨values :: added, by rw [hexpected]; rfl, ?_⟩
                    rw [hall, List.append_assoc, List.singleton_append]
                · next next hquery =>
                    have hnext := database_refused db hquery
                    rw [hnext]
                    exact heldBack_none hheld fun h => by cases h

/-- All of the rows or none of them. -/
structure AllOrNothing (expected : Option (List ImportRow))
    (before after : Database) (rc : ExitCode) : Prop where
  all : rc = .ok → ∃ rows, expected = some rows ∧
    after.rows = before.rows ++ rows ∧ after.working = none
  nothing : rc ≠ .ok → after.rows = before.rows

theorem AllOrNothing.of_rows {expected : Option (List ImportRow)}
    {before other after : Database} {rc : ExitCode}
    (hwhole : AllOrNothing expected before after rc)
    (hrows : before.rows = other.rows) :
    AllOrNothing expected other after rc :=
  ⟨hrows ▸ hwhole.all, hrows ▸ hwhole.nothing⟩

theorem allOrNothing_failed {expected : Option (List ImportRow)}
    {before after : Database} {rc : ExitCode} (hrc : rc ≠ .ok)
    (hrows : after.rows = before.rows) :
    AllOrNothing expected before after rc :=
  ⟨fun hok => absurd hok hrc, fun _ => hrows⟩

theorem importInTransaction_allOrNothing (site : ImportSite σ)
    (table : List UInt8) (headers lines : List (List UInt8))
    (hbegun : (client.database db).working = some (client.database db).rows) :
    AllOrNothing (importRows headers.length lines) (client.database db)
      ((importInTransaction site table headers lines client).2.database db)
      (importInTransaction site table headers lines client).1 := by
  have hheld : (client.database db).held .table =
    some (client.database db).rows := hbegun
  obtain ⟨hrows, -, kept, hkept, hadded⟩ :=
    importLoop_heldBack site table headers lines hheld
  have hworking : ((importLoop site table .table headers lines
    client).2.database db).working = some kept := hkept
  rw [importInTransaction]
  split
  · next next hloop =>
      rw [hloop] at hrows hworking hadded
      obtain ⟨added, hexpected, hall⟩ := hadded rfl
      split
      · next last hquery =>
          refine ⟨fun _ => ⟨added, hexpected, ?_, ?_⟩, fun h => absurd rfl h⟩
          · rw [database_accepted db hquery]
            simp only [Database.accept, hworking, Option.getD_some, hall]
          · rw [database_accepted db hquery]
            rfl
      · next last hquery =>
          refine allOrNothing_failed (fun h => by cases h) ?_
          rw [database_refused db hquery, hrows]
  · next rc next hfailed hloop =>
      rw [hloop] at hrows
      refine allOrNothing_failed (fun h => hfailed h) ?_
      rw [database_query]
      split
      · exact hrows
      · exact hrows

theorem dropStage_database (site : ImportSite σ) (client : Client σ)
    (db : Database) :
    ((dropStage site client).database db).rows = (client.database db).rows ∧
      ((dropStage site client).database db).working =
        (client.database db).working := by
  rw [dropStage]
  split
  · rw [database_query]
    split <;> exact ⟨rfl, rfl⟩
  · exact ⟨rfl, rfl⟩

theorem mergeStage_allOrNothing (site : ImportSite σ)
    (table colList : List UInt8)
    (hidle : (client.database db).working = none) :
    AllOrNothing (some (client.database db).stage) (client.database db)
      ((mergeStage site table colList client).2.database db)
      (mergeStage site table colList client).1 := by
  rw [mergeStage]
  split
  · exact allOrNothing_failed (fun h => by cases h) rfl
  · split
    · next next hquery =>
        have hmerge : (client.database db).accept .merge =
            { client.database db with
              rows := (client.database db).rows ++
                (client.database db).stage } := by
          simp only [Database.accept, hidle]
        refine ⟨fun _ => ⟨_, rfl, ?_, ?_⟩, fun h => absurd rfl h⟩
        · rw [database_accepted db hquery, hmerge]
        · rw [database_accepted db hquery, hmerge]
          exact hidle
    · next next hquery =>
        refine allOrNothing_failed (fun h => by cases h) ?_
        rw [database_refused db hquery]

theorem importStaged_allOrNothing (site : ImportSite σ)
    (table colList : List UInt8) (headers lines : List (List UInt8))
    (hidle : (client.database db).working = none) :
    AllOrNothing (importRows headers.length lines) (client.database db)
      ((importStaged site table colList headers lines client).2.database db)
      (importStaged site table colList headers lines client).1 := by
  rw [importStaged]
  dsimp only
  split
  · exact allOrNothing_failed (fun h => by cases h) rfl
  · split
    · next next hquery =>
        refine allOrNothing_failed (fun h => by cases h) ?_
        rw [database_refused db hquery]
    · next next hquery =>
        have hcreated := database_accepted db hquery
        have hrows : (next.database db).rows = (client.database db).rows := by
          rw [hcreated]
          rfl
        have hworking : (next.database db).working = none := by
          rw [hcreated]
          exact hidle
        have hheld : (next.database db).held .stage = some [] := by
          rw [hcreated]
          rfl
        split
        · exact allOrNothing_failed (fun h => by cases h) hrows
        · obtain ⟨hloopRows, hloopWorking, kept, hkept, hadded⟩ :=
            importLoop_heldBack site table headers lines hheld
          split
          · next last hloop =>
              rw [hloop] at hloopRows hloopWorking hkept hadded
              obtain ⟨added, hexpected, hall⟩ := hadded rfl
              have hstage : (last.database db).stage = added := by
                rw [Option.some.inj hkept, hall, List.nil_append]
              obtain ⟨hmergeAll, hmergeNothing⟩ :=
                mergeStage_allOrNothing site table colList
                  ((hloopWorking rfl).trans hworking)
              obtain ⟨hdropRows, hdropWorking⟩ := dropStage_database site
                (mergeStage site table colList last).2 db
              refine ⟨fun hok => ?_, fun hrc => ?_⟩
              · obtain ⟨rows, hrowsEq, hafter, hnone⟩ := hmergeAll hok
                refine ⟨added, hexpected, ?_, hdropWorking.trans hnone⟩
                rw [hdropRows, hafter, hloopRows, hrows, ← hstage,
                  Option.some.inj hrowsEq]
              · rw [hdropRows, hmergeNothing hrc, hloopRows, hrows]
          · next rc last hfailed hloop =>
              rw [hloop] at hloopRows
              refine allOrNothing_failed (fun h => hfailed h) ?_
              rw [(dropStage_database site last db).1, hloopRows, hrows]

/-! Transactions that are left open. -/

def ImportQuery.EndsWork (query : ImportQuery) : Prop :=
  query = .commitWork ∨ query = .rollbackWork

/-- The server has refused to end the transaction. -/
def Refused (client : Client σ) : Prop :=
  ∃ query : ImportQuery, query.EndsWork ∧
    client.sent.getLast? = some (query, false)

theorem ended_query (db : Database) (query : ImportQuery) (sql : List UInt8)
    (hends : query.EndsWork) :
    ((client.query site query sql).2.database db).working = none ∨
      Refused (client.query site query sql).2 := by
  cases hanswer : (client.query site query sql).1 with
  | true =>
      left
      rw [database_query, hanswer]
      rcases hends with rfl | rfl <;> rfl
  | false =>
      right
      have hrefused : (site.answer sql client.server).1 = false := hanswer
      refine ⟨query, hends, ?_⟩
      rw [Client.query, List.getLast?_concat, hrefused]

theorem importInTransaction_ended (site : ImportSite σ) (table : List UInt8)
    (headers lines : List (List UInt8)) (client : Client σ) (db : Database) :
    ((importInTransaction site table headers lines
        client).2.database db).working = none ∨
      Refused (importInTransaction site table headers lines client).2 := by
  rw [importInTransaction]
  split
  · next next hloop =>
      have hended := @ended_query σ site next db .commitWork
        (octets "COMMIT WORK") (.inl rfl)
      split
      · next last hquery => rwa [hquery] at hended
      · next last hquery => rwa [hquery] at hended
  · exact ended_query db _ _ (.inr rfl)

theorem mergeStage_working (site : ImportSite σ)
    (table colList : List UInt8)
    (hidle : (client.database db).working = none) :
    ((mergeStage site table colList client).2.database db).working = none := by
  rw [mergeStage]
  split
  · exact hidle
  · split
    · next next hquery =>
        rw [database_accepted db hquery]
        simp only [Database.accept, hidle]
    · next next hquery => rwa [database_refused db hquery]

theorem importStaged_working (site : ImportSite σ)
    (table colList : List UInt8) (headers lines : List (List UInt8))
    (hidle : (client.database db).working = none) :
    ((importStaged site table colList headers lines
      client).2.database db).working = none := by
  rw [importStaged]
  dsimp only
  split
  · exact hidle
  · split
    · next next hquery => rwa [database_refused db hquery]
    · next next hquery =>
        have hcreated := database_accepted db hquery
        have hworking : (next.database db).working = none := by
          rw [hcreated]
          exact hidle
        have hheld : (next.database db).held .stage = some [] := by
          rw [hcreated]
          rfl
        split
        · exact hworking
        · have hloop := (importLoop_heldBack site table headers lines
            hheld).working rfl
          split
          · next last hrun =>
              rw [hrun] at hloop
              rw [(dropStage_database site _ db).2]
              exact mergeStage_working site table colList
                (hloop.trans hworking)
          · next rc last hfailed hrun =>
              rw [hrun] at hloop
              rw [(dropStage_database site last db).2]
              exact hloop.trans hworking

end Runs

/-- The file that the argument of the command names. -/
def importContent (site : ImportSite σ) (arg : List UInt8) :
    Option (List UInt8) :=
  match importArguments arg with
  | none => none
  | some (path, _) => site.content path

/-- No transaction is left open with rows of the import in it, unless the server
refused to end it. -/
def Ended (db : Database) (client : Client σ) : Prop :=
  (client.database db).working = none ∨ client.sent = [(.beginWork, true)] ∨
    Refused client

/-- Whatever the server accepts, the table gets all the rows of the file if
the command reports success, and else keeps the rows it had. -/
theorem commandImportCsv_allOrNothing (site : ImportSite σ) (arg : List UInt8)
    (server : σ) (db : Database) (hidle : db.working = none) :
    AllOrNothing ((importContent site arg).bind fileRows) db
        ((commandImportCsv site arg ⟨server, []⟩).2.database db)
        (commandImportCsv site arg ⟨server, []⟩).1 ∧
      Ended db (commandImportCsv site arg ⟨server, []⟩).2 := by
  have hunsent : Ended db (⟨server, []⟩ : Client σ) := .inl hidle
  rw [commandImportCsv, importContent]
  cases harguments : importArguments arg with
  | none => exact ⟨allOrNothing_failed (fun h => by cases h) rfl, hunsent⟩
  | some found =>
      obtain ⟨path, table⟩ := found
      dsimp only
      cases hcontent : site.content path with
      | none => exact ⟨allOrNothing_failed (fun h => by cases h) rfl, hunsent⟩
      | some content =>
          rw [Option.bind_some, fileRows, Option.map_some]
          cases hreads : csvReads content with
          | nil => exact ⟨allOrNothing_failed (fun h => by cases h) rfl, hunsent⟩
          | cons header lines =>
              dsimp only
              cases hheaders : parseCsvFields header with
              | none =>
                  exact ⟨allOrNothing_failed (fun h => by cases h) rfl, hunsent⟩
              | some headers =>
                  dsimp only
                  have hsent : (Client.query site .beginWork
                      (octets "BEGIN WORK") ⟨server, []⟩).2.sent =
                        [(.beginWork, (Client.query site .beginWork
                          (octets "BEGIN WORK") ⟨server, []⟩).1)] := rfl
                  generalize hquery : Client.query site .beginWork
                    (octets "BEGIN WORK") ⟨server, []⟩ = begun at hsent ⊢
                  obtain ⟨txActive, next⟩ := begun
                  have hrows : (next.database db).rows = db.rows := by
                    cases txActive with
                    | true => rw [database_accepted db hquery]; rfl
                    | false => rw [database_refused db hquery]; rfl
                  cases txActive with
                  | true =>
                      cases hlist : buildImportColumnList headers with
                      | none =>
                          exact ⟨allOrNothing_failed (fun h => by cases h) hrows,
                            .inr (.inl hsent)⟩
                      | some colList =>
                          refine ⟨AllOrNothing.of_rows ?_ hrows,
                            (importInTransaction_ended site table headers lines
                              next db).imp id .inr⟩
                          refine importInTransaction_allOrNothing site table
                            headers lines ?_
                          rw [database_accepted db hquery]
                          rfl
                  | false =>
                      have hworking : (next.database db).working = none := by
                        rw [database_refused db hquery]
                        exact hidle
                      cases hlist : buildImportColumnList headers with
                      | none =>
                          exact ⟨allOrNothing_failed (fun h => by cases h) hrows,
                            .inl hworking⟩
                      | some colList =>
                          exact ⟨AllOrNothing.of_rows
                            (importStaged_allOrNothing site table colList
                              headers lines hworking) hrows,
                            .inl (importStaged_working site table colList
                              headers lines hworking)⟩

/-- The argument `f t`. -/
def sampleArgument : List UInt8 := [102, 32, 116]

/-- A file with a column `a` and the rows 1 and 2. The server accepts what does
not end in `2')`. -/
def sampleSite : ImportSite Unit where
  answer := fun sql _ => (sql.drop (sql.length - 3) ≠ [50, 39, 41], ())
  content := fun _ => some [97, 10, 49, 10, 50, 10]
  rewinds := (true, true)
  stageTable := [115]

def sampleDatabase : Database := ⟨[[some [48]]], none, []⟩

theorem commandImportCsv_allOrNothing_refused :
    let outcome := commandImportCsv sampleSite sampleArgument ⟨(), []⟩
    outcome.2.sent = [(.beginWork, true), (.insert .table [some [49]], true),
        (.insert .table [some [50]], false), (.rollbackWork, true)] ∧
      (outcome.2.database sampleDatabase).rows = [[some [48]]] :=
  ⟨by decide +kernel,
    (commandImportCsv_allOrNothing sampleSite sampleArgument () sampleDatabase
      rfl).1.nothing (by decide +kernel)⟩

/-! A table that has been exported. -/

/-- What `table_buffer_collect` shows of a row, NULL as `NULL`. -/
def shownRow (row : ImportRow) : List (List UInt8) :=
  row.map fun value => value.getD (octets "NULL")

/-- No text of the row reads like NULL. -/
def Unlike (row : ImportRow) : Prop :=
  ∀ text, some text ∈ row → strCaseEq text (octets "NULL") = false

theorem importValue_shown {value : Option (List UInt8)}
    (hunlike : ∀ text, value = some text →
      strCaseEq text (octets "NULL") = false) :
    importValue (some (value.getD (octets "NULL"))) = value := by
  cases value with
  | none => decide
  | some text =>
      rw [Option.getD_some, importValue, Option.filter_some,
        hunlike text rfl]
      rfl

theorem importValues_shown {row : ImportRow} (hunlike : Unlike row) :
    importValues row.length (shownRow row) = row := by
  refine List.ext_getElem (by simp [importValues]) fun i hi hrow => ?_
  have hshown : (shownRow row)[i]? =
      some (row[i].getD (octets "NULL")) := by
    rw [shownRow, List.getElem?_map, List.getElem?_eq_getElem hrow]
    rfl
  simp only [importValues, List.getElem_map, List.getElem_range, hshown]
  refine importValue_shown fun text htext => hunlike text ?_
  rw [← htext]
  exact List.getElem_mem hrow

theorem parseImportRow_shown {row : ImportRow}
    (hportable : Portable (shownRow row)) (hunlike : Unlike row) :
    parseImportRow row.length (printCsvRow (shownRow row)) = some row := by
  have hcells : shownRow row ≠ [] := fun h => hportable.filled (by rw [h]; rfl)
  have hlength : ¬ row.length < (shownRow row).length := by
    simp [shownRow]
  rw [parseImportRow, parseCsvFields_printed hcells]
  dsimp only
  rw [if_neg hlength, importValues_shown hunlike]

section Exported

variable {colNames : List (List UInt8)} {rows : List ImportRow}

/-- Rows for these columns that a CSV file can carry. -/
def Exportable (colNames : List (List UInt8)) (rows : List ImportRow) : Prop :=
  ∀ row ∈ rows, row.length = colNames.length ∧
    Portable (shownRow row) ∧ Unlike row

theorem importRows_shown (hrows : Exportable colNames rows) :
    importRows colNames.length
      (rows.map fun row => printCsvRow (shownRow row)) = some rows := by
  induction rows with
  | nil => rfl
  | cons row rows ih =>
      obtain ⟨hlength, hportable, hunlike⟩ := hrows row List.mem_cons_self
      have hparse := parseImportRow_shown hportable hunlike
      rw [hlength] at hparse
      rw [List.map_cons, importRows, if_neg hportable.filled, hparse]
      dsimp only
      rw [ih fun other hother => hrows other (List.mem_cons_of_mem _ hother)]
      rfl

theorem csvReads_exported (hnames : Portable colNames)
    (hrows : Exportable colNames rows) :
    csvReads (printCsvMode true colNames (rows.map shownRow)) =
      printCsvRow colNames ::
        rows.map fun row => printCsvRow (shownRow row) := by
  rw [csvReads_printed hnames, List.map_map]
  · rfl
  · intro cells hcells
    obtain ⟨row, hrow, rfl⟩ := List.mem_map.mp hcells
    exact (hrows row hrow).2.1

/-- The server accepts every statement. -/
def ImportSite.Accepting (site : ImportSite σ) : Prop :=
  ∀ sql server, (site.answer sql server).1 = true

theorem ImportSite.Accepting.query {site : ImportSite σ}
    (haccepting : site.Accepting) (query : ImportQuery) (sql : List UInt8)
    (client : Client σ) :
    (client.query site query sql) = (true, (client.query site query sql).2) := by
  have h := haccepting sql client.server
  rw [Client.query, h]

theorem importLoop_accepted {site : ImportSite σ} (haccepting : site.Accepting)
    {table : List UInt8} (hrows : Exportable colNames rows)
    (hsql : ∀ row ∈ rows, (buildImportInsertSql table colNames row).isSome)
    (client : Client σ) :
    (importLoop site table .table colNames
      (rows.map fun row => printCsvRow (shownRow row)) client).1 = .ok := by
  induction rows generalizing client with
  | nil => rfl
  | cons row rows ih =>
      obtain ⟨hlength, hportable, hunlike⟩ := hrows row List.mem_cons_self
      have hparse := parseImportRow_shown hportable hunlike
      rw [hlength] at hparse
      obtain ⟨sql, hbuilt⟩ := Option.isSome_iff_exists.mp
        (hsql row List.mem_cons_self)
      have hnamed : site.named table .table = table := rfl
      rw [List.map_cons, importLoop, if_neg hportable.filled, hparse]
      dsimp only
      rw [hnamed, hbuilt]
      dsimp only
      rw [haccepting.query]
      exact ih (fun other hother => hrows other (List.mem_cons_of_mem _ hother))
        (fun other hother => hsql other (List.mem_cons_of_mem _ hother)) _

end Exported

/-! What the text of an INSERT says. -/

/-- A literal or NULL, and what is behind it. -/
def readValue (text : List UInt8) :
    Option (Option (List UInt8) × List UInt8) :=
  if text.head? = some singleQuote then
    (unquote singleQuote text.tail).map fun (value, left) => (some value, left)
  else if text.take 4 = octets "NULL" then some (none, text.drop 4)
  else none

/-- Values with commas between them up to a closing parenthesis; `count`
bounds how many there are. -/
def readValues : Nat → List UInt8 → Option (List (Option (List UInt8)))
  | 0, _ => none
  | count + 1, text =>
      match readValue text with
      | none => none
      | some (value, left) =>
          if left = [41] then some [value]
          else if left.head? = some comma then
            (readValues count left.tail).map (value :: ·)
          else none

def behindParenthesis (sql : List UInt8) : List UInt8 :=
  (sql.dropWhile (· ≠ 40)).tail

/-- The values of an INSERT that names its columns. -/
def readInsert (sql : List UInt8) : Option (List (Option (List UInt8))) :=
  let text := behindParenthesis (behindParenthesis sql)
  readValues text.length text

theorem fill_flatten {cap : Nat} {pieces : List (List UInt8)}
    {out sql : List UInt8} (hfill : fill cap pieces out = some sql) :
    sql = out ++ pieces.flatten := by
  induction pieces generalizing out with
  | nil =>
      cases hfill
      simp
  | cons piece pieces ih =>
      rw [fill] at hfill
      split at hfill
      · rw [ih hfill, List.flatten_cons, List.append_assoc]
      · cases hfill

theorem valuePieces_flatten (text : List UInt8) :
    (valuePieces (some text)).flatten = quote singleQuote text := by
  rw [valuePieces, List.cons_append, List.flatten_cons, List.flatten_append,
    ← List.flatMap_def]
  rfl

theorem readValue_written (value : Option (List UInt8)) {left : List UInt8}
    (hleft : left.head? ≠ some singleQuote) :
    readValue ((valuePieces value).flatten ++ left) = some (value, left) := by
  cases value with
  | none =>
      have hnull : (valuePieces none).flatten = octets "NULL" := by decide
      have hlength : (octets "NULL").length = 4 := by decide
      rw [hnull, readValue, if_neg, if_pos, List.drop_left' hlength]
      · exact List.take_left' hlength
      · have hhead : (octets "NULL").head? = some 78 := by decide
        rw [List.head?_append, hhead]
        exact fun h => absurd (Option.some.inj h) (by decide)
  | some text =>
      rw [valuePieces_flatten, quote, readValue, List.cons_append,
        if_pos List.head?_cons, List.tail_cons, List.append_assoc,
        List.singleton_append, unquote_double hleft]
      rfl

theorem readValues_written {values : List (Option (List UInt8))}
    (hvalues : values ≠ []) {count : Nat} (hcount : values.length ≤ count) :
    readValues count ((valuesPieces values).flatten ++ [41]) = some values := by
  induction values generalizing count with
  | nil => exact absurd rfl hvalues
  | cons value rest ih =>
      obtain ⟨count, rfl⟩ := Nat.exists_eq_succ_of_ne_zero
        (Nat.ne_of_gt (Nat.lt_of_lt_of_le (Nat.succ_pos rest.length) hcount))
      rw [readValues]
      cases rest with
      | nil =>
          rw [valuesPieces, readValue_written value (by decide)]
          rfl
      | cons next rest =>
          have hleft : (comma :: ((valuesPieces (next :: rest)).flatten ++
              [41])).head? ≠ some singleQuote := by
            rw [List.head?_cons]
            decide
          rw [valuesPieces, List.flatten_append, List.flatten_cons,
            List.append_assoc, List.append_assoc, List.singleton_append,
            readValue_written value hleft]
          dsimp only
          rw [if_neg (by simp), if_pos List.head?_cons, List.tail_cons,
            ih (List.cons_ne_nil _ _) (Nat.le_of_succ_le_succ hcount)]
          rfl

theorem behindParenthesis_append {front : List UInt8} (hfront : 40 ∉ front)
    (rest : List UInt8) : behindParenthesis (front ++ 40 :: rest) = rest := by
  have hall : ∀ c ∈ front, decide (c ≠ 40) = true := fun c hc =>
    decide_eq_true fun h => hfront (h ▸ hc)
  rw [behindParenthesis, List.dropWhile_append_of_pos hall,
    List.dropWhile_cons_of_neg (by decide), List.tail_cons]

theorem not_mem_identifier {name : List UInt8}
    (hname : isSimpleSqlIdentifier name = true) : 40 ∉ name := by
  intro hmem
  cases name with
  | nil => cases hmem
  | cons c0 rest =>
      rw [isSimpleSqlIdentifier, Bool.and_eq_true, List.all_eq_true] at hname
      rcases List.mem_cons.mp hmem with hfirst | hrest
      · rw [← hfirst] at hname
        exact absurd hname.1 (by decide)
      · exact absurd (hname.2 40 hrest) (by decide)

theorem not_mem_commaBetween {names : List (List UInt8)}
    (hnames : ∀ name ∈ names, 40 ∉ name) :
    40 ∉ (commaBetween names).flatten := by
  induction names with
  | nil => exact List.not_mem_nil
  | cons name rest ih =>
      have hname := hnames name List.mem_cons_self
      have hrest := ih fun other hother =>
        hnames other (List.mem_cons_of_mem _ hother)
      cases rest with
      | nil => simpa [commaBetween] using hname
      | cons next rest =>
          rw [commaBetween, List.intersperse_cons_cons, List.flatten_cons,
            List.flatten_cons, List.mem_append, List.mem_append, not_or, not_or]
          exact ⟨hname, by decide, hrest⟩

theorem length_valuesPieces (values : List (Option (List UInt8))) :
    values.length ≤ (valuesPieces values).flatten.length := by
  have hone : ∀ value, 1 ≤ (valuePieces value).flatten.length := by
    intro value
    cases value with
    | none => decide
    | some text =>
        rw [valuePieces_flatten, quote, List.length_cons]
        exact Nat.succ_pos _
  induction values with
  | nil => exact Nat.zero_le _
  | cons value rest ih =>
      cases rest with
      | nil => exact hone value
      | cons next rest =>
          have hvalue := hone value
          rw [valuesPieces, List.flatten_append, List.flatten_cons,
            List.length_append, List.length_append, List.length_cons]
          omega

/-- An INSERT that has been built says which values the row is to have,
whatever quotes and commas are in them. -/
theorem readInsert_built {table sql : List UInt8} {headers : List (List UInt8)}
    {values : List (Option (List UInt8))}
    (htable : isSimpleSqlIdentifier table = true) (hvalues : values ≠ [])
    (hbuilt : buildImportInsertSql table headers values = some sql) :
    readInsert sql = some values := by
  rw [buildImportInsertSql] at hbuilt
  split at hbuilt
  · next hheaders =>
      rw [List.all_eq_true] at hheaders
      have hsql := fill_flatten hbuilt
      have hfront : 40 ∉ octets "INSERT INTO " ++ table ++ [32] := by
        rw [List.mem_append, List.mem_append, not_or, not_or]
        exact ⟨⟨by decide, not_mem_identifier htable⟩, by decide⟩
      have hcolumns : 40 ∉ (commaBetween headers).flatten ++
          octets ") VALUES " := by
        rw [List.mem_append, not_or]
        exact ⟨not_mem_commaBetween fun name hname =>
          not_mem_identifier (hheaders name hname), by decide⟩
      have hwhole : sql = (octets "INSERT INTO " ++ table ++ [32]) ++
          40 :: (((commaBetween headers).flatten ++ octets ") VALUES ") ++
            40 :: ((valuesPieces values).flatten ++ [41])) := by
        have hopen : octets " (" = [32, 40] := by decide
        have hmiddle : octets ") VALUES (" = octets ") VALUES " ++ [40] := by
          decide
        have hclose : octets ")" = [41] := by decide
        rw [hsql, insertPieces, hopen, hmiddle, hclose]
        simp
      rw [readInsert, hwhole, behindParenthesis_append hfront,
        behindParenthesis_append hcolumns]
      refine readValues_written hvalues ?_
      rw [List.length_append]
      exact Nat.le_add_right_of_le (length_valuesPieces values)
  · cases hbuilt

theorem importArguments_identifier {arg path table : List UInt8}
    (harguments : importArguments arg = some (path, table)) :
    isSimpleSqlIdentifier table = true := by
  rw [importArguments] at harguments
  split at harguments
  · cases harguments
  · next hsound =>
      cases harguments
      simp only [not_or, Bool.not_eq_false] at hsound
      exact hsound.2.2

/-- A table that is printed as CSV with its headers and imported again by a
server that accepts the statements comes back row by row, and each INSERT says
what its row holds. -/
theorem commandImportCsv_exported (site : ImportSite σ)
    (haccepting : site.Accepting) (server : σ) (db : Database)
    (arg path table : List UInt8)
    (harguments : importArguments arg = some (path, table))
    (colNames : List (List UInt8)) (rows : List ImportRow)
    (hcontent : site.content path =
      some (printCsvMode true colNames (rows.map shownRow)))
    (hnames : Portable colNames) (hrows : Exportable colNames rows)
    (hlist : (buildImportColumnList colNames).isSome)
    (hsql : ∀ row ∈ rows, (buildImportInsertSql table colNames row).isSome) :
    (commandImportCsv site arg ⟨server, []⟩).1 = .ok ∧
      ((commandImportCsv site arg ⟨server, []⟩).2.database db).rows =
        db.rows ++ rows ∧
      ((commandImportCsv site arg ⟨server, []⟩).2.database db).working = none ∧
      ∀ row ∈ rows, ∃ sql, buildImportInsertSql table colNames row = some sql ∧
        readInsert sql = some row := by
  have hcells : colNames ≠ [] := fun h => hnames.filled (by rw [h]; rfl)
  obtain ⟨colList, hcolList⟩ := Option.isSome_iff_exists.mp hlist
  generalize hbegin : (Client.query site .beginWork (octets "BEGIN WORK")
    ⟨server, []⟩).2 = begun
  have hquery := haccepting.query .beginWork (octets "BEGIN WORK")
    ⟨server, []⟩
  rw [hbegin] at hquery
  have hcommand : commandImportCsv site arg ⟨server, []⟩ =
      importInTransaction site table colNames
        (rows.map fun row => printCsvRow (shownRow row)) begun := by
    rw [commandImportCsv, harguments]
    dsimp only
    rw [hcontent, Option.map_some, csvReads_exported hnames hrows]
    dsimp only
    rw [parseCsvFields_printed hcells]
    dsimp only
    rw [hquery, hcolList]
    rfl
  have hloop := importLoop_accepted haccepting hrows hsql begun
  have hok : (importInTransaction site table colNames
      (rows.map fun row => printCsvRow (shownRow row)) begun).1 = .ok := by
    rw [importInTransaction]
    split
    · rw [haccepting.query]
    · next hfailed houtcome =>
        rw [houtcome] at hloop
        exact absurd hloop fun h => hfailed h
  have hrowsKept : (begun.database db).rows = db.rows := by
    rw [database_accepted db hquery]
    rfl
  have hbegun : (begun.database db).working = some (begun.database db).rows := by
    rw [database_accepted db hquery]
    rfl
  obtain ⟨added, hadded, hafter, hnone⟩ := (importInTransaction_allOrNothing site
    table colNames (rows.map fun row => printCsvRow (shownRow row)) hbegun).all
      hok
  rw [importRows_shown hrows] at hadded
  cases hadded
  rw [hcommand]
  refine ⟨hok, hafter.trans (by rw [hrowsKept]), hnone, fun row hrow => ?_⟩
  obtain ⟨sql, hbuilt⟩ := Option.isSome_iff_exists.mp (hsql row hrow)
  have hvalues : row ≠ [] := fun h =>
    (hrows row hrow).2.1.filled (by rw [h]; rfl)
  exact ⟨sql, hbuilt, readInsert_built (importArguments_identifier harguments)
    hvalues hbuilt⟩

/-- A column `a` with the rows `',` and NULL. -/
def quotedRows : List ImportRow := [[some [39, 44]], [none]]

def quotedSite : ImportSite Unit where
  answer := fun _ _ => (true, ())
  content := fun _ => some (printCsvMode true [[97]] (quotedRows.map shownRow))
  rewinds := (true, true)
  stageTable := [115]

theorem portable_single {cell : List UInt8} {last : UInt8}
    (hfilled : printCsvValue cell ≠ []) (hplain : newline ∉ cell ∧ 0 ∉ cell)
    (hlast : (printCsvValue cell).getLast? = some last)
    (hspace : isSpaceChar last = false)
    (hshort : (printCsvValue cell).length < 65535) : Portable [cell] where
  filled := hfilled
  plain := by simpa using hplain
  ends := by
    intro c hc
    have hsame : some last = some c := hlast.symm.trans hc
    cases hsame
    exact hspace
  short := hshort

theorem quotedRows_exportable : Exportable [[97]] quotedRows := by
  intro row hrow
  have htwo : row = [some [39, 44]] ∨ row = [none] := by
    simpa [quotedRows] using hrow
  rcases htwo with rfl | rfl
  · refine ⟨rfl, portable_single (by decide) (by decide) rfl (by decide)
      (by decide), ?_⟩
    intro text htext
    obtain rfl : text = [39, 44] := by simpa using htext
    decide
  · refine ⟨rfl, portable_single (by decide) (by decide) rfl (by decide)
      (by decide), ?_⟩
    intro text htext
    simp at htext

theorem commandImportCsv_exported_quoted :
    ((commandImportCsv quotedSite sampleArgument ⟨(), []⟩).2.database
      ⟨[], none, []⟩).rows = quotedRows :=
  (commandImportCsv_exported quotedSite (fun _ _ => rfl) () ⟨[], none, []⟩
    sampleArgument [102] [116] (by decide +kernel) [[97]] quotedRows rfl
    (portable_single (by decide) (by decide) rfl (by decide) (by decide))
    quotedRows_exportable (by decide +kernel) (by decide +kernel)).2.1

end Libsqli.Sqlicon
