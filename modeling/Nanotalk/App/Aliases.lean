import Mathlib.Data.List.DropRight
import Nanotalk.Lib.Tables
import Nanotalk.Dht.Text

/-!
# Aliases

Model of the aliases in `src/application.c`: how C `completion_update` reads them from the text of
`aliases_buffer`, what C `new_connection` puts into `main_entry`, and what id C `call_start` looks up
for the text there.

* A `GtkTextIter` goes over the characters of the text. Its lines end with a newline, a carriage
  return, both, or a paragraph separator, which are part of the line.
* A C string is the list of its bytes in UTF-8. GTK takes no text with a zero character.
* The entry keeps the text that is put into it.

`call_back_iff`: the displayed text leads back to the caller unless a later line, or a line of an id
that has none, says otherwise.
-/

namespace Nanotalk
open Glib

/-- What C `struct _Application` has for the aliases. -/
structure Aliases where
  /-- the text of `aliases_buffer` -/
  buffer : List Char
  /-- `aliases_list` -/
  list : List (List UInt8)
  alias2id : List UInt8 → Option DhtId
  id2alias : DhtId → Option (List UInt8)

/-! ## Strings -/

/-- What `gtk_text_iter_get_text` gives for these characters. -/
def getText (text : List Char) : List UInt8 := text.flatMap String.utf8EncodeChar

/-- `g_ascii_isspace`. -/
def isSpace (c : UInt8) : Bool := c = 0x20 ∨ c = 0x0C ∨ c = 0x0A ∨ c = 0x0D ∨ c = 0x09

/-- `g_strstrip`. -/
def strstrip (string : List UInt8) : List UInt8 := (string.dropWhile isSpace).rdropWhile isSpace

/-- The lines that `gtk_text_iter_forward_line` goes over. -/
def lines : List Char → List (List Char)
  | [] => []
  | c :: text =>
    if c = '\n' ∨ c = '\u2029' ∨ c = '\r' ∧ text.head? ≠ some '\n' then [c] :: lines text
    else
      match lines text with
      | [] => [[c]]
      | line :: rest => (c :: line) :: rest

/-- They make up the text. -/
lemma lines_flatten (text : List Char) : (lines text).flatten = text := by
  induction text with
  | nil => rfl
  | cons c text ih =>
    unfold lines
    split
    · rw [List.flatten_cons, ih]
      rfl
    · cases e : lines text with
      | nil =>
        rw [e] at ih
        rw [← ih]
        rfl
      | cons line rest =>
        rw [e] at ih
        rw [← ih]
        rfl

/-! ## The functions of the application -/

namespace Aliases

/-- What is read from a line: the id and its alias, if there is more than an id on the line. -/
def row (line : List Char) : Option (DhtId × List UInt8) :=
  if DhtId.STRING_SIZE < line.length then
    match DhtId.ofString (getText (line.take DhtId.STRING_SIZE)) with
    | some id =>
      let name := strstrip (getText (line.drop DhtId.STRING_SIZE))
      if name ≠ [] then some (id, name) else none
    | none => none
  else none

/-- The rows that are read from a text. -/
def rows (text : List Char) : List (DhtId × List UInt8) := (lines text).filterMap row

/-- A round of the loop of `completion_update`. -/
def completionLine (aliases : Aliases) (line : List Char) : Aliases :=
  match row line with
  | some (id, name) =>
    { aliases with
      list := aliases.list ++ [name]
      alias2id := hashInsert aliases.alias2id name id
      id2alias := hashInsert aliases.id2alias id name }
  | none => aliases

/-- C `completion_update`. -/
def completionUpdate (aliases : Aliases) : Aliases :=
  let text := aliases.buffer
  let aliases := (lines text).foldl completionLine aliases
  -- Ensure trailing newline
  if text.getLast? = some '\n' then aliases else { aliases with buffer := text ++ ['\n'] }

/-- After C `application_startup` has loaded a text, before `completion_update`. -/
def startup (text : List Char) : Aliases := ⟨text, [], fun _ => none, fun _ => none⟩

/-- The text that C `new_connection` puts into `main_entry`. -/
def newConnectionText (aliases : Aliases) (id : DhtId) : List UInt8 :=
  match aliases.id2alias id with
  | some name => name
  | none => id.toString

/-- The id that C `call_start` looks up for a text in `main_entry`. -/
def callStartId (aliases : Aliases) (text : List UInt8) : Option DhtId :=
  match aliases.alias2id text with
  | some id => some id
  | none => DhtId.ofString text

/-! ## The tables -/

/-- The tables are filled with the rows. -/
lemma foldl_completionLine (aliases : Aliases) (ls : List (List Char)) :
    (ls.foldl completionLine aliases).id2alias = fill aliases.id2alias (ls.filterMap row) ∧
    (ls.foldl completionLine aliases).alias2id =
      fill aliases.alias2id ((ls.filterMap row).map Prod.swap) := by
  induction ls generalizing aliases with
  | nil => exact ⟨rfl, rfl⟩
  | cons line ls ih =>
    rw [List.foldl_cons]
    cases e : row line with
    | none =>
      have same : completionLine aliases line = aliases := by
        unfold completionLine
        rw [e]
      rw [same, List.filterMap_cons_none e]
      exact ih aliases
    | some r =>
      obtain ⟨id, name⟩ := r
      obtain ⟨there, back⟩ := ih (completionLine aliases line)
      rw [there, back, List.filterMap_cons_some e]
      unfold completionLine
      rw [e]
      exact ⟨rfl, rfl⟩

/-- The tables that a text leaves. -/
lemma completionUpdate_tables (text : List Char) :
    (startup text).completionUpdate.id2alias = fill (fun _ => none) (rows text) ∧
    (startup text).completionUpdate.alias2id = fill (fun _ => none) ((rows text).map Prod.swap) := by
  have tables := foldl_completionLine (startup text) (lines text)
  unfold completionUpdate
  dsimp only
  split
  · exact tables
  · exact tables

/-- The rows from which `id` is displayed unambiguously: its last alias is in no later row, and if it
    has no row, its text is no alias. -/
structure Unambiguous (rows : List (DhtId × List UInt8)) (id : DhtId) : Prop where
  listed : ∀ earlier name later, rows = earlier ++ (id, name) :: later →
    id ∉ later.map Prod.fst → name ∉ later.map Prod.snd
  unlisted : id ∉ rows.map Prod.fst → id.toString ∉ rows.map Prod.snd

section CallBack

variable {text : List Char} {id : DhtId} {name : List UInt8}
  {earlier later : List (DhtId × List UInt8)}

/-- A name that is an alias is looked up as one of the ids it is given to. -/
lemma exists_alias2id (mem : name ∈ (rows text).map Prod.snd) :
    ∃ id ∈ (rows text).map Prod.fst, (startup text).completionUpdate.alias2id name = some id := by
  have snd : ((rows text).map Prod.swap).map Prod.fst = (rows text).map Prod.snd := List.map_map
  obtain ⟨earlier, id, later, e, last⟩ := exists_last (snd ▸ mem)
  have there : (name, id) ∈ (rows text).map Prod.swap :=
    e ▸ List.mem_append_right _ List.mem_cons_self
  obtain ⟨row, hr, es⟩ := List.mem_map.mp there
  refine ⟨id, List.mem_map.mpr ⟨row, hr, congrArg Prod.snd es⟩, ?_⟩
  rw [(completionUpdate_tables text).2, e, fill_last last]

/-- The caller has a row. -/
lemma call_back_listed (e : rows text = earlier ++ (id, name) :: later)
    (last : id ∉ later.map Prod.fst) :
    let aliases := (startup text).completionUpdate
    aliases.callStartId (aliases.newConnectionText id) = some id ↔ name ∉ later.map Prod.snd := by
  obtain ⟨there, back⟩ := completionUpdate_tables text
  have shown : (startup text).completionUpdate.newConnectionText id = name := by
    unfold newConnectionText
    rw [there, e, fill_last last]
  have mem : name ∈ (rows text).map Prod.snd := by
    rw [e, List.map_append]
    exact List.mem_append_right _ List.mem_cons_self
  obtain ⟨id', -, hit⟩ := exists_alias2id mem
  dsimp only
  rw [shown, ← fill_swap_iff last, ← e, ← back]
  unfold callStartId
  rw [hit]

/-- The caller has no row. -/
lemma call_back_unlisted (out : id ∉ (rows text).map Prod.fst) :
    let aliases := (startup text).completionUpdate
    aliases.callStartId (aliases.newConnectionText id) = some id ↔
      id.toString ∉ (rows text).map Prod.snd := by
  obtain ⟨there, back⟩ := completionUpdate_tables text
  have shown : (startup text).completionUpdate.newConnectionText id = id.toString := by
    unfold newConnectionText
    rw [there, fill_of_not_mem out]
  dsimp only
  rw [shown]
  unfold callStartId
  by_cases mem : id.toString ∈ (rows text).map Prod.snd
  · obtain ⟨id', listed, hit⟩ := exists_alias2id mem
    rw [hit]
    constructor
    · intro same
      exact absurd (Option.some.inj same ▸ listed) out
    · exact fun no => absurd mem no
  · have missing : id.toString ∉ ((rows text).map Prod.swap).map Prod.fst := by
      rwa [List.map_map]
    rw [back, fill_of_not_mem missing]
    exact iff_of_true (DhtId.ofString_toString id) mem

end CallBack

/-- The id that is looked up for the text displayed for a caller is the caller's id, for every text of
    the aliases buffer, exactly if the rows that are read from it are unambiguous. -/
theorem call_back_iff (text : List Char) (id : DhtId) :
    let aliases := (startup text).completionUpdate
    aliases.callStartId (aliases.newConnectionText id) = some id ↔ Unambiguous (rows text) id := by
  constructor
  · intro reached
    exact ⟨fun _ _ _ e last => (call_back_listed e last).mp reached,
      fun out => (call_back_unlisted out).mp reached⟩
  · intro clear
    by_cases mem : id ∈ (rows text).map Prod.fst
    · obtain ⟨earlier, name, later, e, last⟩ := exists_last mem
      exact (call_back_listed e last).mpr (clear.listed earlier name later e last)
    · exact (call_back_unlisted mem).mpr (clear.unlisted mem)

/-- Two lines with an id and the alias `Bob`. -/
def twoBobs : List Char :=
  List.replicate 27 'A' ++ ['=', ' ', 'B', 'o', 'b', '\n'] ++
  ['B'] ++ List.replicate 26 'A' ++ ['=', ' ', 'B', 'o', 'b', '\n']

/-- The first one calls, `Bob` is displayed, and the second one is called back. -/
theorem two_bobs_fails :
    (startup twoBobs).completionUpdate.newConnectionText ⟨fun _ => 0⟩ = [0x42, 0x6F, 0x62] ∧
    (startup twoBobs).completionUpdate.callStartId
      ((startup twoBobs).completionUpdate.newConnectionText ⟨fun _ => 0⟩) =
      some ⟨fun i => if i = 0 then 4 else 0⟩ ∧
    (startup twoBobs).completionUpdate.callStartId
      ((startup twoBobs).completionUpdate.newConnectionText ⟨fun _ => 0⟩) ≠ some ⟨fun _ => 0⟩ := by
  decide +kernel

end Aliases

end Nanotalk
