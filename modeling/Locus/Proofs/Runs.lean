import Locus.Command.Run
import Locus.Proofs.Traversal
import Mathlib.Data.List.ReduceOption

/-!
# Runs, told by their inputs

Which files a run considers, in which order, and what each of them has to do with the result. Main
statement: a run is all or nothing, and loses no file.

Collecting files and lexing them are both a traversal that stops at the first failure.
-/

namespace Locus.Files.Path

/-! ## The order of paths -/

theorem namesLe_cons_cons {a b : String} {as bs : List String} :
    namesLe (a :: as) (b :: bs) = true ↔ a < b ∨ a = b ∧ namesLe as bs = true := by
  simp [namesLe]

theorem namesLe_total (as bs : List String) : namesLe as bs = true ∨ namesLe bs as = true := by
  induction as generalizing bs with
  | nil => exact .inl rfl
  | cons a as ih =>
    rcases bs with _ | ⟨b, bs⟩
    · exact .inr rfl
    · rw [namesLe_cons_cons, namesLe_cons_cons]
      obtain hlt | rfl | hgt := Std.lt_trichotomy a b
      · exact .inl (.inl hlt)
      · exact (ih bs).imp (fun h => .inr ⟨rfl, h⟩) fun h => .inr ⟨rfl, h⟩
      · exact .inr (.inl hgt)

theorem namesLe_trans {as bs cs : List String} (hab : namesLe as bs = true)
    (hbc : namesLe bs cs = true) : namesLe as cs = true := by
  induction as generalizing bs cs with
  | nil => rfl
  | cons a as ih =>
    rcases bs with _ | ⟨b, bs⟩
    · cases hab
    rcases cs with _ | ⟨c, cs⟩
    · cases hbc
    rw [namesLe_cons_cons] at hab hbc ⊢
    obtain hab | ⟨rfl, has⟩ := hab
    · obtain hbc | ⟨rfl, -⟩ := hbc
      · exact .inl (String.lt_trans hab hbc)
      · exact .inl hab
    · obtain hbc | ⟨rfl, hbs⟩ := hbc
      · exact .inl hbc
      · exact .inr ⟨rfl, ih has hbs⟩

/-- One list of names comes before another: the other goes on from it, or of the first names in which
they differ its own is the lesser one. -/
def Precede (as bs : List String) : Prop :=
  as <+: bs ∨ ∃ common a b as' bs', as = common ++ a :: as' ∧ bs = common ++ b :: bs' ∧ a < b

theorem precede_of_namesLe {as bs : List String} (h : namesLe as bs = true) : Precede as bs := by
  induction as generalizing bs with
  | nil => exact .inl List.nil_prefix
  | cons a as ih =>
    rcases bs with _ | ⟨b, bs⟩
    · cases h
    rw [namesLe_cons_cons] at h
    obtain hlt | ⟨rfl, hrest⟩ := h
    · exact .inr ⟨[], a, b, as, bs, rfl, rfl, hlt⟩
    · obtain hpre | ⟨common, c, d, as', bs', rfl, rfl, hlt⟩ := ih hrest
      · exact .inl (List.cons_prefix_cons.2 ⟨rfl, hpre⟩)
      · exact .inr ⟨a :: common, c, d, as', bs', rfl, rfl, hlt⟩

/-- Sorted paths stand in the order of their names. -/
theorem pairwise_mergeSort_le (paths : List String) :
    (paths.mergeSort le).Pairwise fun p q => Precede (names p) (names q) := by
  have hsorted : (paths.mergeSort le).Pairwise fun p q => le p q = true := by
    refine List.pairwise_mergeSort (fun p q r hpq hqr => ?_) (fun p q => ?_) paths
    · exact namesLe_trans hpq hqr
    · rw [Bool.or_eq_true]
      exact namesLe_total (names p) (names q)
  exact hsorted.imp precede_of_namesLe

end Locus.Files.Path

namespace Locus.Command

open Files

/-! ## The files that are considered -/

/-- The files that an input names: the input itself if it is a file; if it is a directory, the files
that a walk of it comes upon, each as often as the walk does, in the order of their names. -/
inductive Names (s : Sources) (input : String) : List SourceFile → Prop where
  | file (h : s.kind? input = some .file) : Names s input [⟨input, false⟩]
  | directory {paths : List String} (h : s.kind? input = some .directory)
      (found : paths.Perm (((s.walk input).filter WalkEntry.isFile).map WalkEntry.path))
      (sorted : paths.Pairwise fun p q => Path.Precede (Path.names p) (Path.names q)) :
      Names s input (paths.map fun path => ⟨path, true⟩)

theorem names_of_filesOf {s : Sources} {input : String} {files : List SourceFile}
    (h : filesOf s input = .ok files) : Names s input files := by
  rw [filesOf] at h
  rcases hkind : s.kind? input with _ | _ | _ <;> rw [hkind] at h <;> cases h
  · exact .file hkind
  · exact .directory hkind (List.mergeSort_perm _ _) (Path.pairwise_mergeSort_le _)

theorem filesOf_eq_error_iff {s : Sources} {input : String} {e : RunError} :
    filesOf s input = .error e ↔ s.kind? input = none ∧ e = .noSuchInput input := by
  rw [filesOf]
  rcases s.kind? input with _ | _ | _ <;> simp [eq_comm]

theorem collect_eq_mapM (s : Sources) (inputs : List String) :
    collect s inputs = (inputs.mapM (filesOf s)).map List.flatten := by
  induction inputs with
  | nil => rfl
  | cons input rest ih =>
    rw [collect, ih, List.mapM_cons]
    rcases filesOf s input with e | files
    · rfl
    · rcases rest.mapM (filesOf s) with e | groups <;> rfl

/-- Collecting fails at the first input at which there is nothing. -/
theorem collect_of_missing {s : Sources} {before after : List String} {input : String}
    (hbefore : ∀ b ∈ before, s.kind? b ≠ none) (h : s.kind? input = none) :
    collect s (before ++ input :: after) = .error (.noSuchInput input) := by
  have hmap : (before ++ input :: after).mapM (filesOf s) = .error (.noSuchInput input) := by
    refine mapM_eq_error_iff.2 ⟨before, input, after, rfl, fun b hb e he => ?_, ?_⟩
    · exact hbefore b hb (filesOf_eq_error_iff.1 he).1
    · exact filesOf_eq_error_iff.2 ⟨h, rfl⟩
  rw [collect_eq_mapM, hmap]
  rfl

theorem collect_of_none_missing {s : Sources} {inputs : List String}
    (h : ∀ input ∈ inputs, s.kind? input ≠ none) :
    ∃ groups, List.Forall₂ (Names s) inputs groups ∧ collect s inputs = .ok groups.flatten := by
  rw [collect_eq_mapM]
  rcases hmap : inputs.mapM (filesOf s) with e | groups
  · obtain ⟨before, input, after, rfl, -, hinput⟩ := mapM_eq_error_iff.1 hmap
    exact absurd (filesOf_eq_error_iff.1 hinput).1 (h input (by simp))
  · exact ⟨groups, (mapM_eq_ok_iff.1 hmap).imp fun _ _ => names_of_filesOf, rfl⟩

/-! ## What becomes of a file -/

namespace SourceFile

/-- Whether a file is text. -/
def isText (s : Sources) (f : SourceFile) : Bool := (Utf8.decode (s.read f.path)).isOk

/-- A file fails: it is an input of its own and no text, or it is text that cannot be lexed. -/
inductive Fails (s : Sources) (c : Config) (f : SourceFile) : RunError → Prop where
  | notText {fault : Utf8.Fault} (named : f.walked = false)
      (h : Utf8.decode (s.read f.path) = .error fault) : Fails s c f (.notText f.path fault)
  | lex {cs : List Char} {e : LexError} (text : Utf8.decode (s.read f.path) = .ok cs)
      (h : c.lexFile f.path (String.ofList cs) = .error e) : Fails s c f (.lex f.path e)

/-- A file is text, and these are its tokens under its path. -/
structure Gives (s : Sources) (c : Config) (f : SourceFile) (r : FileTokens) : Prop where
  path : r.path = f.path
  tokens : ∃ cs, Utf8.decode (s.read f.path) = .ok cs ∧
    c.lexFile f.path (String.ofList cs) = .ok r.tokens

end SourceFile

section LexSource

variable {s : Sources} {c : Config} {f : SourceFile}

theorem lexSource_of_fault {fault : Utf8.Fault}
    (h : Utf8.decode (s.read f.path) = .error fault) :
    lexSource s c f = if f.walked then .ok none else .error (.notText f.path fault) := by
  simp only [lexSource, readText, h]
  split <;> rfl

theorem lexSource_of_text {cs : List Char} (h : Utf8.decode (s.read f.path) = .ok cs) :
    lexSource s c f =
      match c.lexFile f.path (String.ofList cs) with
      | .ok tokens => .ok (some ⟨f.path, tokens⟩)
      | .error e => .error (.lex f.path e) := by
  rewrite [lexSource, readText, h]
  rfl

theorem lexSource_eq_error_iff {e : RunError} :
    lexSource s c f = .error e ↔ f.Fails s c e := by
  constructor
  · intro h
    rcases hdecode : Utf8.decode (s.read f.path) with fault | cs
    · rw [lexSource_of_fault hdecode] at h
      split at h
      · cases h
      · next hnamed =>
        cases h
        exact .notText (Bool.eq_false_iff.2 hnamed) hdecode
    · rw [lexSource_of_text hdecode] at h
      split at h
      · cases h
      · next hlex =>
        cases h
        exact .lex hdecode hlex
  · rintro (⟨hnamed, hdecode⟩ | ⟨hdecode, hlex⟩)
    · rw [lexSource_of_fault hdecode, hnamed, if_neg Bool.false_ne_true]
    · rw [lexSource_of_text hdecode, hlex]

theorem gives_of_lexSource {r : FileTokens} (h : lexSource s c f = .ok (some r)) :
    f.isText s = true ∧ f.Gives s c r := by
  rw [SourceFile.isText]
  rcases hdecode : Utf8.decode (s.read f.path) with fault | cs
  · rw [lexSource_of_fault hdecode] at h
    split at h <;> cases h
  · rw [lexSource_of_text hdecode] at h
    split at h
    · next hlex =>
      cases h
      exact ⟨rfl, rfl, cs, hdecode, hlex⟩
    · cases h

theorem not_isText_of_lexSource (h : lexSource s c f = .ok none) : f.isText s = false := by
  rw [SourceFile.isText]
  rcases hdecode : Utf8.decode (s.read f.path) with fault | cs
  · rfl
  · rw [lexSource_of_text hdecode] at h
    split at h <;> cases h

end LexSource

/-! ## What a run comes to -/

/-- What it comes to if files are lexed one after another: a failure, which is that of the first file
that fails, or if none of them fails one result for every file that is text, in their order. -/
inductive Comes (s : Sources) (c : Config) (files : List SourceFile) :
    Except RunError (List FileTokens) → Prop where
  | fails {before after : List SourceFile} {f : SourceFile} {e : RunError}
      (files_eq : files = before ++ f :: after)
      (first : ∀ g ∈ before, ∀ e, ¬ g.Fails s c e) (h : f.Fails s c e) :
      Comes s c files (.error e)
  | gives {results : List FileTokens} (none_fails : ∀ f ∈ files, ∀ e, ¬ f.Fails s c e)
      (h : List.Forall₂ (SourceFile.Gives s c) (files.filter (SourceFile.isText s)) results) :
      Comes s c files (.ok results)

theorem lexAll_eq_mapM (s : Sources) (c : Config) (files : List SourceFile) :
    lexAll s c files = (files.mapM (lexSource s c)).map List.reduceOption := by
  induction files with
  | nil => rfl
  | cons f rest ih =>
    rw [lexAll, ih, List.mapM_cons]
    rcases lexSource s c f with e | _ | r
    · rfl
    · rcases rest.mapM (lexSource s c) with e | rs <;> rfl
    · rcases rest.mapM (lexSource s c) with e | rs <;> rfl

/-- The files that are passed over leave no trace in the results. -/
theorem gives_reduceOption {s : Sources} {c : Config} {files : List SourceFile}
    {rs : List (Option FileTokens)}
    (h : List.Forall₂ (fun f r => lexSource s c f = .ok r) files rs) :
    List.Forall₂ (SourceFile.Gives s c) (files.filter (SourceFile.isText s)) rs.reduceOption := by
  induction h with
  | nil => exact .nil
  | @cons f r files rs hf _ ih =>
    rcases r with _ | r
    · rw [List.filter_cons_of_neg (Bool.eq_false_iff.1 (not_isText_of_lexSource hf)),
        List.reduceOption_cons_of_none]
      exact ih
    · obtain ⟨htext, hgives⟩ := gives_of_lexSource hf
      rw [List.filter_cons_of_pos htext, List.reduceOption_cons_of_some]
      exact .cons hgives ih

theorem comes_lexAll (s : Sources) (c : Config) (files : List SourceFile) :
    Comes s c files (lexAll s c files) := by
  rw [lexAll_eq_mapM]
  rcases hmap : files.mapM (lexSource s c) with e | rs
  · obtain ⟨before, f, after, hfiles, hfirst, hf⟩ := mapM_eq_error_iff.1 hmap
    exact .fails hfiles (fun g hg e hfails => hfirst g hg e (lexSource_eq_error_iff.2 hfails))
      (lexSource_eq_error_iff.1 hf)
  · have hall := mapM_eq_ok_iff.1 hmap
    have hnone : ∀ f r, lexSource s c f = .ok r →
        (∀ e, ¬ f.Fails s c e) ∧ lexSource s c f = .ok r := by
      refine fun f r hr => ⟨fun e hfails => ?_, hr⟩
      cases hr.symm.trans (lexSource_eq_error_iff.2 hfails)
    exact .gives ((List.forall₂_and_left ..).1 (hall.imp hnone)).1 (gives_reduceOption hall)

/-- **A run is all or nothing, and loses no file.** If there is nothing at some input, the run fails
at the first such input, whatever the files hold. Otherwise it considers the files that its inputs
name, input by input, and comes to what these come to if they are lexed one after another. A run
that fails leaves nothing behind but its messages; one that does not fail prints all its results. -/
theorem run_all_or_nothing (s : Sources) (c : Config) :
    (∀ before input after, c.inputs = before ++ input :: after →
      (∀ b ∈ before, s.kind? b ≠ none) → s.kind? input = none →
      ∀ read, run { s with read } c = .error (.noSuchInput input)) ∧
    ((∀ input ∈ c.inputs, s.kind? input ≠ none) →
      ∃ groups, List.Forall₂ (Names s) c.inputs groups ∧ Comes s c groups.flatten (run s c)) ∧
    ∀ args, Config.ofArguments args = .ok c →
      (∀ e, run s c = .error e → execute s args = ⟨failureStatus, "", e.chain⟩) ∧
      ∀ results, run s c = .ok results → execute s args = ⟨0, output c results, []⟩ := by
  refine ⟨fun before input after hinputs hbefore hinput read => ?_, fun hall => ?_, ?_⟩
  · have hcollect : collect { s with read } c.inputs = .error (.noSuchInput input) := by
      rw [hinputs]
      exact collect_of_missing hbefore hinput
    rw [run, hcollect]
    rfl
  · obtain ⟨groups, hnames, hcollect⟩ := collect_of_none_missing hall
    refine ⟨groups, hnames, ?_⟩
    rw [run, hcollect]
    exact comes_lexAll s c groups.flatten
  · intro args hargs
    refine ⟨fun e hrun => ?_, fun results hrun => ?_⟩
    · simp only [execute, hargs, hrun]
    · simp only [execute, hargs, hrun]

end Locus.Command
