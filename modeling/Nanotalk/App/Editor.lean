import Nanotalk.Lib.Runs
import Nanotalk.App.Aliases

/-!
# The editor of the aliases

C `editor_save` reads the aliases from the text again and writes the text to `aliases.txt`, which C
`application_startup` reads when the program starts. The file is the list of the characters of a text;
`g_file_set_contents` replaces it or leaves it as it was.

* `rows_newline`: the newline that C `completion_update` adds changes no alias.
* `restart_iff`: in every state of a run, a restart brings the same aliases back, if and only if no
  aliases are saved that cannot be written.
-/

namespace Nanotalk
open Glib

/-- The editor: the aliases, and the file they are read from. -/
structure Editor where
  aliases : Aliases
  /-- `gtk_text_buffer_get_modified` -/
  modified : Bool
  /-- the text in `aliases.txt`, if there is one -/
  file : Option (List Char)

namespace Editor

/-- What happens to the editor. -/
inductive Event where
  /-- the user changes the text -/
  | edit (text : List Char)
  /-- the button is clicked; the file can be written, or not -/
  | save (written : Bool)
  /-- the program ends and is started again -/
  | restart

/-- C `completion_update`. A text that changes is modified. -/
def completionUpdate (editor : Editor) : Editor where
  aliases := editor.aliases.completionUpdate
  modified := editor.modified || editor.aliases.buffer.getLast? != some '\n'
  file := editor.file

/-- What C `application_startup` does for the aliases. -/
def startup (file : Option (List Char)) : Editor :=
  match file with
  | some text => completionUpdate ⟨.startup text, false, file⟩
  | none => ⟨.startup [], false, none⟩

/-- C `editor_save`. -/
def save (editor : Editor) (written : Bool) : Editor :=
  if editor.modified then
    let editor := completionUpdate { editor with
      aliases := ⟨editor.aliases.buffer, [], fun _ => none, fun _ => none⟩
      modified := false }
    if written then { editor with file := some editor.aliases.buffer } else editor
  else editor

/-- The editor after an event. -/
def step (editor : Editor) : Event → Editor
  | .edit text => { editor with aliases := { editor.aliases with buffer := text }, modified := true }
  | .save written => editor.save written
  | .restart => startup editor.file

/-- The editor after a run that starts with some file. -/
def run (file : Option (List Char)) (events : List Event) : Editor := events.foldl step (startup file)

end Editor

/-! ## The newline at the end -/

namespace Aliases

lemma strstrip_newline (string : List UInt8) : strstrip (string ++ [0x0A]) = strstrip string := by
  unfold strstrip
  rw [List.dropWhile_append]
  split
  · rename_i blank
    rw [List.isEmpty_iff.mp blank]
    rfl
  · exact List.rdropWhile_concat_pos _ _ _ rfl

/-- A newline does not belong to an alias. -/
lemma row_newline (line : List Char) : row (line ++ ['\n']) = row line := by
  unfold row
  rcases Nat.lt_trichotomy line.length DhtId.STRING_SIZE with lt | e | gt
  · have short : ¬ DhtId.STRING_SIZE < (line ++ ['\n']).length := by
      rw [List.length_append, List.length_singleton]
      omega
    rw [if_neg short, if_neg (Nat.lt_asymm lt)]
  · have long : DhtId.STRING_SIZE < (line ++ ['\n']).length := by
      rw [List.length_append, List.length_singleton, e]
      exact Nat.lt_succ_self _
    have blank : strstrip (getText ((line ++ ['\n']).drop DhtId.STRING_SIZE)) = [] := by
      rw [← e, List.drop_left]
      rfl
    rw [if_pos long, if_neg (Nat.not_lt.mpr e.le), blank]
    split
    · exact if_neg (not_not.mpr rfl)
    · rfl
  · have long : DhtId.STRING_SIZE < (line ++ ['\n']).length := by
      rw [List.length_append]
      omega
    have rest : getText ((line ++ ['\n']).drop DhtId.STRING_SIZE) =
        getText (line.drop DhtId.STRING_SIZE) ++ [0x0A] := by
      rw [List.drop_append_of_le_length gt.le, getText, List.flatMap_append]
      rfl
    rw [if_pos long, if_pos gt, List.take_append_of_le_length gt.le, rest, strstrip_newline]

lemma lines_end {c : Char} {text : List Char}
    (ends : c = '\n' ∨ c = '\u2029' ∨ c = '\r' ∧ text.head? ≠ some '\n') :
    lines (c :: text) = [c] :: lines text := by
  rw [lines, if_pos ends]

/-- A character that does not end a line belongs to it. -/
lemma lines_more {c : Char} {text line : List Char} {rest : List (List Char)}
    (more : ¬ (c = '\n' ∨ c = '\u2029' ∨ c = '\r' ∧ text.head? ≠ some '\n'))
    (e : lines text = line :: rest) : lines (c :: text) = (c :: line) :: rest := by
  rw [lines, if_neg more, e]

/-- The lines of a text that is not ended by a newline, and of the one that is: the last line gets it,
    or it is a line of its own. -/
lemma lines_newline {text : List Char} (ne : text ≠ []) (last : text.getLast? ≠ some '\n') :
    ∃ init line, lines text = init ++ [line] ∧
      (lines (text ++ ['\n']) = init ++ [line ++ ['\n']] ∨
        lines (text ++ ['\n']) = init ++ [line, ['\n']]) := by
  induction text with
  | nil => exact absurd rfl ne
  | cons c text ih =>
    cases text with
    | nil =>
      refine ⟨[], [c], ?_⟩
      have newline : c ≠ '\n' := by simpa using last
      by_cases para : c = '\u2029'
      · subst para
        exact ⟨rfl, .inr rfl⟩
      · have single : lines [c] = [[c]] := by
          unfold lines
          split <;> rfl
        have joined : lines [c, '\n'] = [[c, '\n']] := by
          unfold lines
          rw [if_neg (by simp [newline, para])]
          rfl
        exact ⟨single, .inl joined⟩
    | cons d text =>
      obtain ⟨init, line, before, after⟩ := ih (List.cons_ne_nil _ _) (by simpa using last)
      by_cases ends : c = '\n' ∨ c = '\u2029' ∨ c = '\r' ∧ some d ≠ some '\n'
      · refine ⟨[c] :: init, line, (lines_end ends).trans (congrArg _ before), ?_⟩
        rcases after with e | e
        · exact .inl ((lines_end ends).trans (congrArg _ e))
        · exact .inr ((lines_end ends).trans (congrArg _ e))
      · cases init with
        | nil =>
          refine ⟨[], c :: line, lines_more ends before, ?_⟩
          rcases after with e | e
          · exact .inl (lines_more ends e)
          · exact .inr (lines_more ends e)
        | cons first init =>
          refine ⟨(c :: first) :: init, line, lines_more ends before, ?_⟩
          rcases after with e | e
          · exact .inl (lines_more ends e)
          · exact .inr (lines_more ends e)

/-- The newline that is added changes no alias. -/
lemma rows_newline {text : List Char} (last : text.getLast? ≠ some '\n') :
    rows (text ++ ['\n']) = rows text := by
  by_cases empty : text = []
  · subst empty
    rfl
  · obtain ⟨init, line, before, after⟩ := lines_newline empty last
    have newline : row ['\n'] = none := rfl
    unfold rows
    rw [before]
    rcases after with e | e
    · rw [e, List.filterMap_append, List.filterMap_append, List.filterMap_cons, List.filterMap_cons,
        row_newline]
    · rw [e, List.filterMap_append, List.filterMap_append, List.filterMap_cons, List.filterMap_cons,
        List.filterMap_cons, newline]

/-- What a text says: the names, and the two tables. -/
def tablesOf (text : List Char) : List (List UInt8) × (List UInt8 → Option DhtId) ×
    (DhtId → Option (List UInt8)) :=
  ((rows text).map Prod.snd, fill (fun _ => none) ((rows text).map Prod.swap),
    fill (fun _ => none) (rows text))

/-- What is offered and looked up. -/
def tables (aliases : Aliases) : List (List UInt8) × (List UInt8 → Option DhtId) ×
    (DhtId → Option (List UInt8)) :=
  (aliases.list, aliases.alias2id, aliases.id2alias)

/-- The lines that are rows are appended, and the text stays. -/
lemma foldl_completionLine_list (aliases : Aliases) (ls : List (List Char)) :
    (ls.foldl completionLine aliases).list = aliases.list ++ (ls.filterMap row).map Prod.snd ∧
    (ls.foldl completionLine aliases).buffer = aliases.buffer := by
  induction ls generalizing aliases with
  | nil => exact ⟨(List.append_nil _).symm, rfl⟩
  | cons line ls ih =>
    obtain ⟨list, buffer⟩ := ih (completionLine aliases line)
    rw [List.foldl_cons, list, buffer]
    unfold completionLine
    split
    · rename_i id name e
      rw [List.filterMap_cons_some e, List.map_cons, List.append_assoc]
      exact ⟨rfl, rfl⟩
    · rename_i e
      rw [List.filterMap_cons_none e]
      exact ⟨rfl, rfl⟩

/-- What `completion_update` leaves of a text: its tables, and a text that says the same. -/
lemma completionUpdate_tablesOf (text : List Char) :
    (startup text).completionUpdate.tables = tablesOf text ∧
    tablesOf (startup text).completionUpdate.buffer = tablesOf text := by
  obtain ⟨back, there⟩ := completionUpdate_tables text
  obtain ⟨list, buffer⟩ := foldl_completionLine_list (startup text) (lines text)
  have listed : (startup text).completionUpdate.list = (rows text).map Prod.snd := by
    unfold completionUpdate
    dsimp only
    split
    · exact list
    · exact list
  refine ⟨Prod.ext listed (Prod.ext there back), ?_⟩
  unfold completionUpdate
  dsimp only
  split
  · exact congrArg tablesOf buffer
  · rename_i last
    have same : rows (text ++ ['\n']) = rows text := rows_newline last
    show tablesOf (text ++ ['\n']) = tablesOf text
    rw [tablesOf, same]
    rfl

end Aliases

/-! ## Restarts -/

namespace Editor
open Aliases

variable {editor : Editor}

/-- A restart brings the aliases back that the application has. -/
def Restores (editor : Editor) : Prop :=
  (startup editor.file).aliases.tables = editor.aliases.tables

/-- A text is saved that says something else, and cannot be written. -/
def Loses (editor : Editor) : Event → Prop
  | .save false => editor.modified = true ∧ tablesOf editor.aliases.buffer ≠ editor.aliases.tables
  | _ => False

/-- A start reads the tables from the file. -/
lemma startup_tables (file : Option (List Char)) :
    (startup file).aliases.tables = tablesOf (file.getD []) := by
  cases file with
  | none => rfl
  | some text => exact (completionUpdate_tablesOf text).1

lemma startup_file (file : Option (List Char)) : (startup file).file = file := by
  cases file <;> rfl

/-- A text that was modified is read, normalised and written. -/
lemma save_modified (changed : editor.modified = true) (written : Bool) :
    (editor.save written).aliases = (Aliases.startup editor.aliases.buffer).completionUpdate ∧
    (editor.save written).file =
      if written then some (Aliases.startup editor.aliases.buffer).completionUpdate.buffer
      else editor.file := by
  unfold save
  rw [if_pos changed]
  cases written <;> exact ⟨rfl, rfl⟩

/-- A text that was not modified is not saved. -/
lemma save_unmodified (same : editor.modified = false) (written : Bool) :
    editor.save written = editor := by
  unfold save
  rw [if_neg (same ▸ Bool.false_ne_true)]

/-- What an event keeps, unless it loses aliases. -/
lemma Restores.step (R : editor.Restores) (e : Event) (kept : ¬ editor.Loses e) :
    (editor.step e).Restores := by
  cases e with
  | edit text => exact R
  | restart =>
    show (startup (startup editor.file).file).aliases.tables = _
    rw [startup_file]
    rfl
  | save written =>
    show (startup (editor.save written).file).aliases.tables = (editor.save written).aliases.tables
    cases changed : editor.modified with
    | false =>
      rw [save_unmodified changed]
      exact R
    | true =>
      obtain ⟨aliases, file⟩ := save_modified changed written
      obtain ⟨tables, buffer⟩ := completionUpdate_tablesOf editor.aliases.buffer
      rw [aliases, file, tables, startup_tables]
      cases written with
      | true => exact buffer
      | false =>
        by_contra differ
        refine kept ⟨changed, fun same => differ ?_⟩
        rw [same, ← R, startup_tables]
        rfl

/-- Aliases that are lost are not brought back. -/
lemma Restores.kept (R : editor.Restores) {e : Event} (R' : (editor.step e).Restores) :
    ¬ editor.Loses e := by
  intro loses
  cases e with
  | save written =>
    cases written with
    | true => exact loses
    | false =>
      obtain ⟨changed, differ⟩ := loses
      obtain ⟨aliases, file⟩ := save_modified changed false
      have restored : (startup (editor.save false).file).aliases.tables =
          (editor.save false).aliases.tables := R'
      rw [aliases, file, (completionUpdate_tablesOf editor.aliases.buffer).1] at restored
      exact differ (restored.symm.trans R)
  | edit text => exact loses
  | restart => exact loses

/-- In every state of a run, whatever the user edits and saves, a restart of the program brings back
    the aliases that the application has, if and only if no save of other aliases fails. -/
theorem restart_iff (file : Option (List Char)) (events : List Event) :
    (∀ earlier, earlier <+: events → (run file earlier).Restores) ↔
      Runs.Throughout step (fun editor e => ¬ editor.Loses e) (startup file) events := by
  have initial : (startup file).Restores := by
    rw [Restores, startup_file]
  exact Runs.invariant_iff (R := fun _ _ => True) (fun _ R => R) (fun _ e R _ kept => R.step e kept)
    (fun _ _ R R' => R.kept R') initial (Runs.Throughout.of_forall events fun _ _ => trivial)

end Editor

end Nanotalk
