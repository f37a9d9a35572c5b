import Mathlib.Data.List.Forall2
import SchemaTypes.Proofs.Catalog.Declarations
import SchemaTypes.Proofs.Connection.Statements
import SchemaTypes.Proofs.Text.Cutting
import SchemaTypes.Proofs.Text.Utf8

set_option autoImplicit false

/-! # Members of enumerations

The database is asked for the members of enumerations, one statement for each column, table by
table. What a statement asks for is the text that the type of its column has between parentheses, as
it stands there (`Encloses`), and what is answered to it are the members of that column and of no
other. The main statement is `tables_with_members`.
-/

namespace SchemaTypes

open Grouping

/-! ## Members of one column -/

/-- What a value says as a member: bytes the text that they encode, any other value the text by
which it is shown. -/
inductive Cell.SaysMember : Cell → String → Prop where
  | decoded (s : String) : SaysMember (.bytes (Text.Utf8.encode s)) s
  | shown {cell : Cell} (h : ∀ bytes, cell ≠ .bytes bytes) : SaysMember cell cell.shown

theorem Cell.SaysMember.memberText_eq {cell : Cell} {m : String} (h : cell.SaysMember m) :
    cell.memberText = .ok m := by
  cases h with
  | decoded =>
    rw [Cell.memberText, Text.Utf8.decode?_encode]
    exact congrArg Except.ok String.ofList_toList
  | shown h =>
    cases cell with
    | bytes value => exact absurd rfl (h value)
    | _ => rfl

/-- Computations whose results are given one by one. -/
theorem mapM_eq_ok_of_forall₂ {ε α β : Type} {f : α → Except ε β} {l : List α} {bs : List β}
    (h : List.Forall₂ (fun a b => f a = .ok b) l bs) : l.mapM f = .ok bs := by
  induction h with
  | nil => rfl
  | cons ha _ ih =>
    rw [List.mapM_cons, ha, ih]
    rfl

namespace Mysql

/-- What stands strictly between the first opening and the last closing parenthesis of a text.
Nothing does if the closing one comes first. -/
inductive Encloses : String → String → Prop where
  | between {before list after : String} (hbefore : '(' ∉ before.toList)
      (hafter : ')' ∉ after.toList) :
      Encloses (before ++ "(" ++ list ++ ")" ++ after) list
  | crossed {before middle after : String} (hbefore : '(' ∉ (before ++ ")" ++ middle).toList)
      (hafter : ')' ∉ (middle ++ "(" ++ after).toList) :
      Encloses (before ++ ")" ++ middle ++ "(" ++ after) ""

/-- The text that is taken from a type, by what stands before the two parentheses. -/
theorem memberList?_of_cuts {columnType : String} {before rest front after : List Char}
    (hopen : columnType.toList = before ++ '(' :: rest) (hbefore : '(' ∉ before)
    (hclose : columnType.toList = front ++ ')' :: after) (hafter : ')' ∉ after) :
    memberList? columnType
      = some (String.ofList (rest.take (front.length - (before.length + 1)))) := by
  have hfirst : Text.cutFirst '(' columnType.toList = (before, some rest) := by
    rw [hopen, Text.cutFirst_append hbefore]
  have hlast : Text.cutLast ')' columnType.toList = (some front, after) := by
    rw [hclose, Text.cutLast_append hafter]
  have hlength : columnType.toList.length - rest.length = before.length + 1 := by
    rw [hopen, List.length_append, List.length_cons]
    omega
  simp only [memberList?, hfirst, hlast, hlength]
  rfl

/-- A list of literals is taken from the type as it stands there. -/
theorem Encloses.memberList?_eq {columnType list : String} (h : Encloses columnType list) :
    memberList? columnType = some list := by
  cases h with
  | @between before list after hbefore hafter =>
    have hopen : (before ++ "(" ++ list ++ ")" ++ after).toList
        = before.toList ++ '(' :: (list.toList ++ ')' :: after.toList) := by simp
    have hclose : (before ++ "(" ++ list ++ ")" ++ after).toList
        = (before.toList ++ '(' :: list.toList) ++ ')' :: after.toList := by simp
    have hlength : (before.toList ++ '(' :: list.toList).length - (before.toList.length + 1)
        = list.toList.length := by
      rw [List.length_append, List.length_cons]
      omega
    rw [memberList?_of_cuts hopen hbefore hclose hafter, hlength, List.take_left,
      String.ofList_toList]
  | @crossed before middle after hbefore hafter =>
    have hopen : (before ++ ")" ++ middle ++ "(" ++ after).toList
        = (before ++ ")" ++ middle).toList ++ '(' :: after.toList := by simp
    have hclose : (before ++ ")" ++ middle ++ "(" ++ after).toList
        = before.toList ++ ')' :: (middle ++ "(" ++ after).toList := by simp
    have hlength : before.toList.length - ((before ++ ")" ++ middle).toList.length + 1) = 0 := by
      rw [String.toList_append, String.toList_append, List.length_append, List.length_append]
      omega
    rw [memberList?_of_cuts hopen hbefore hclose hafter, hlength]
    rfl

/-- The database answers the query for a list of literals that is put under the number, and the
first row of the answer says the members. Without a row there are none. -/
def SaysMembers (server : Server) (number : Nat) (list : String) (members : List String) : Prop :=
  ∃ answer, server.values number ("SELECT " ++ list) = .ok answer ∧
    List.Forall₂ Cell.SaysMember (answer.headD []) members

variable {server : Server}

/-- The statement for the members of a column is made of its own list of literals, and there are no
other calls. -/
theorem members_eq {number : Nat} {columnType list : String} {members : List String}
    (hlist : Encloses columnType list) (hanswer : SaysMembers server number list members) :
    Mysql.members (client server) number (.text columnType)
      = ⟨[.execute ("SELECT " ++ list) none], .ok members, []⟩ := by
  obtain ⟨answer, hvalues, hfirst⟩ := hanswer
  have hstatement : memberStatement (.text columnType) = .ok ("SELECT " ++ list) := by
    rw [memberStatement, Cell.asText_text, ok_bind, memberQuery?, hlist.memberList?_eq]
    rfl
  have hquery : (client server).fetchValues number ("SELECT " ++ list) []
      = ⟨[.execute ("SELECT " ++ list) none], ofDriver (.ok answer), []⟩ := by
    rw [← hvalues]
    exact query_eq server.fetchValues number ("SELECT " ++ list) []
  have hmembers : (answer.headD []).mapM Cell.memberText = .ok members :=
    mapM_eq_ok_of_forall₂ (hfirst.imp fun _ _ => Cell.SaysMember.memberText_eq)
  rw [Mysql.members, hstatement, Session.ofExcept_bind, hquery, ofDriver_ok, Session.mk_bind]
  cases answer with
  | nil =>
    cases hfirst
    rfl
  | cons first rest =>
    have hfirst' : first.mapM Cell.memberText = .ok members := hmembers
    simp only [hfirst']
    rfl

/-! ## Members of all columns -/

section

variable {entries : List Entry} {list : Row → String}
  (hlist : ∀ entry ∈ entries, OfEnumeration entry.row →
    Encloses (entry.row.text "column_type") (list entry.row))
  (hanswer : ∀ numbered ∈ (enumerationEntries entries).zipIdx 1,
    SaysMembers server numbered.2 (list numbered.1.row) numbered.1.members)
include hlist hanswer

/-- The query for the members of an enumeration is one statement without parameters. -/
theorem members_of_mem_enumerationEntries :
    ∀ numbered ∈ (enumerationEntries entries).zipIdx 1,
      members (client server) numbered.2 (columnOf numbered.1.row).columnType
        = ⟨[.execute ("SELECT " ++ list numbered.1.row) none], .ok numbered.1.members, []⟩ := by
  intro numbered hmem
  have hentry : numbered.1 ∈ enumerationEntries entries := by
    rw [← List.zipIdx_map_fst 1 (enumerationEntries entries)]
    exact List.mem_map_of_mem hmem
  obtain ⟨hgrouped, henum⟩ := List.mem_filter.1 hentry
  obtain ⟨group, hgroup, hingroup⟩ := List.mem_flatMap.1 hgrouped
  have hencloses := hlist numbered.1 (mem_of_mem_groups hgroup hingroup).1 (of_decide_eq_true henum)
  exact members_eq hencloses (hanswer numbered hmem)

/-- The queries for the members of all enumerations. -/
theorem memberQueries_eq_of_answers :
    memberQueries (client server) ((groups Entry.tableName entries).map openTableOf)
      = (enumerationEntries entries).map fun entry =>
        ⟨[.execute ("SELECT " ++ list entry.row) none], .ok entry.members, []⟩ := by
  rw [memberQueries_entries, List.map_congr_left (members_of_mem_enumerationEntries hlist hanswer)]
  refine Eq.trans ?_ (map_zipIdx_fst _ _ 1)
  rfl

end

/-- For each enumeration, and for no other column, one statement without parameters asks for its
members. They are put table by table in the order of the columns, and the database takes them in any
order that its turns make of this one. What is answered to the statement of a column are the members
of that column, also if equal statements are answered differently. All else in the tables is what
the rows say. -/
theorem tables_with_members {entries : List Entry} {list : Row → String}
    (hrows : server.rows catalogQuery = .ok (entries.map Entry.row))
    (htyped : ∀ entry ∈ entries, WellTyped entry.row)
    (hlist : ∀ entry ∈ entries, OfEnumeration entry.row →
      Encloses (entry.row.text "column_type") (list entry.row))
    (hanswer : ∀ numbered ∈ (enumerationEntries entries).zipIdx 1,
      SaysMembers server numbered.2 (list numbered.1.row) numbered.1.members) :
    (∃ opened, readTables (entries.map Entry.row) = .ok opened ∧
      (memberQueries (client server) opened).map Session.calls
        = (enumerationEntries entries).map fun entry =>
          [.execute ("SELECT " ++ list entry.row) none]) ∧
    (∃ asked, (tables (client server)).calls = .execute catalogQuery (some excludedCells) :: asked ∧
      asked.Perm ((enumerationEntries entries).map fun entry =>
        .execute ("SELECT " ++ list entry.row) none) ∧
      (server.turns = [] → asked = (enumerationEntries entries).map fun entry =>
        .execute ("SELECT " ++ list entry.row) none)) ∧
    (tables (client server)).outcome = .ok ((groups Entry.tableName entries).map fun group =>
      { tableOfGroup (group.1, group.2.map Entry.row) with
        columns := group.2.map fun entry =>
          { columnOf entry.row with
            members := if OfEnumeration entry.row then some entry.members else none } }) := by
  have hqueries := memberQueries_eq_of_answers hlist hanswer
  have hread := readTables_entries htyped
  have hpending : ∀ session ∈ memberQueries (client server)
      ((groups Entry.tableName entries).map openTableOf), session.pending = [] := by
    rw [hqueries, List.forall_mem_map]
    exact fun _ _ => rfl
  have hcalls : (memberQueries (client server)
      ((groups Entry.tableName entries).map openTableOf)).flatMap Session.calls
      = (enumerationEntries entries).map fun entry =>
        .execute ("SELECT " ++ list entry.row) none := by
    rw [hqueries, List.flatMap_map]
    exact List.map_eq_flatMap.symm
  have hanswers : AnswersMembers server entries := fun numbered hmem => by
    rw [members_of_mem_enumerationEntries hlist hanswer numbered hmem]
  obtain ⟨hperm, hleft⟩ := Session.perm_gather server.turns hpending
  rw [hcalls] at hperm
  have hasked := congrArg Session.calls (tables_eq_of_read hrows hread)
  refine ⟨⟨_, hread, ?_⟩, ⟨_, hasked, ?_, ?_⟩, outcome_tables hrows htyped hanswers⟩
  · rw [hqueries, List.map_map]
    rfl
  · -- no query fails, so that none is left running
    rcases hleft with hnone | ⟨query, hquery, failure, hfailure, _⟩
    · rwa [hnone, List.flatten_nil, List.append_nil] at hperm
    · rw [hqueries] at hquery
      obtain ⟨entry, _, rfl⟩ := List.mem_map.1 hquery
      cases hfailure
  · intro hturns
    rw [hturns, Session.calls_gather_nil, hcalls]

/-- Rows of two tables with enumerations among other columns, two of them with the same literals,
and the members that the database says they have. -/
def memberEntries : List Entry :=
  [{ row := requiredColumn "users" "id" "int" "int" },
   { row := requiredColumn "posts" "state" "enum('a','it''s (é), 100%') charset utf8mb4" "ENUM"
     members := ["a"] },
   { row := requiredColumn "users" "role" "enum('a','it''s (é), 100%')" "enum"
     members := ["a", "it's (é), 100%"] },
   { row := requiredColumn "users" "flags" "set('x')" "Set" },
   { row := requiredColumn "posts" "id" "int" "int" }]

/-- A database with those rows, which answers one of their queries with two rows and another with
none. The second query is the first one to be executed. -/
def memberServer : Server :=
  { Server.answering (memberEntries.map Entry.row) fun number =>
      if number = 1 then [[.text "a", .bytes (Text.Utf8.encode "it's (é), 100%")], [.text "b"]]
      else if number = 3 then [[.text "a"]]
      else [] with
    turns := [1, 1, 2] }

/-- The list of literals in the type of each of the enumerations. -/
def memberListOf (row : Row) : String :=
  if row.text "column_type" = "set('x')" then "'x'" else "'a','it''s (é), 100%'"

/-- Columns with the same literals are asked for by a statement each and get what is answered to
their own. -/
theorem tables_with_members_of_two_tables :
    (tables (client memberServer)).calls
      = [.execute catalogQuery (some excludedCells), .execute "SELECT 'x'" none,
         .execute "SELECT 'a','it''s (é), 100%'" none,
         .execute "SELECT 'a','it''s (é), 100%'" none] ∧
    (enumerationEntries memberEntries).map (fun entry => entry.row.text "column_name")
      = ["role", "flags", "state"] ∧
    (tables (client memberServer)).outcome.map
        (fun tables => tables.map fun table => table.columns.map Column.members)
      = .ok [[none, some ["a", "it's (é), 100%"], some []], [some ["a"], none]] := by
  have htyped : ∀ entry ∈ memberEntries, WellTyped entry.row := by
    decide +kernel
  have hnone : ∀ row : Row, row.text "data_type" = "int" → ¬ OfEnumeration row := by
    intro row hrow
    rw [OfEnumeration, hrow]
    decide +kernel
  have hsetList : Encloses "set('x')" "'x'" :=
    @Encloses.between "set" "'x'" "" (by decide) (by decide)
  have hroleList : Encloses "enum('a','it''s (é), 100%')" "'a','it''s (é), 100%'" :=
    @Encloses.between "enum" "'a','it''s (é), 100%'" "" (by decide) (by decide)
  have hstateList :
      Encloses "enum('a','it''s (é), 100%') charset utf8mb4" "'a','it''s (é), 100%'" :=
    @Encloses.between "enum" "'a','it''s (é), 100%'" " charset utf8mb4" (by decide) (by decide)
  have hlist : ∀ entry ∈ memberEntries, OfEnumeration entry.row →
      Encloses (entry.row.text "column_type") (memberListOf entry.row) := by
    simp only [memberEntries, List.forall_mem_cons]
    exact ⟨fun h => absurd h (hnone _ rfl), fun _ => hstateList, fun _ => hroleList,
      fun _ => hsetList, fun h => absurd h (hnone _ rfl), fun _ h => by cases h⟩
  have hentries : enumerationEntries memberEntries
      = [memberEntries[2], memberEntries[3], memberEntries[1]] := by
    rfl
  have hrole : SaysMembers memberServer 1 "'a','it''s (é), 100%'" ["a", "it's (é), 100%"] :=
    ⟨_, rfl, .cons (.shown fun _ h => by cases h) (.cons (.decoded _) .nil)⟩
  have hflags : SaysMembers memberServer 2 "'x'" [] := ⟨_, rfl, .nil⟩
  have hstate : SaysMembers memberServer 3 "'a','it''s (é), 100%'" ["a"] :=
    ⟨_, rfl, .cons (.shown fun _ h => by cases h) .nil⟩
  have hanswer : ∀ numbered ∈ (enumerationEntries memberEntries).zipIdx 1,
      SaysMembers memberServer numbered.2 (memberListOf numbered.1.row) numbered.1.members := by
    rw [hentries]
    simp only [List.zipIdx_cons, List.forall_mem_cons]
    exact ⟨hrole, hflags, hstate, fun _ h => by cases h⟩
  obtain ⟨_, _, houtcome⟩ := tables_with_members rfl htyped hlist hanswer
  refine ⟨rfl, by rw [hentries]; rfl, ?_⟩
  rw [houtcome]
  decide +kernel

end Mysql

end SchemaTypes
