import Mathlib.Data.List.Count
import Mathlib.Data.List.TakeWhile
import RelayStore.Import.Files

/-!
The files that an import reads. Main statement: they are the input itself, or all the files right
inside it that are named like lines of JSON, in the order of their names.
-/
namespace RelayStore

namespace FileTree

theorem splitExtension_plain {name : String} (plain : '.' ∉ name.toList) :
    splitExtension name = (name, none) := by
  have others : ∀ c ∈ name.toList.reverse, decide (c ≠ '.') = true := by
    intro c mem
    exact decide_eq_true fun dot => plain (dot ▸ List.mem_reverse.1 mem)
  rw [splitExtension, List.dropWhile_eq_nil_iff.2 others]

theorem splitExtension_dot {stem extension : String} (last : '.' ∉ extension.toList) :
    splitExtension (stem ++ "." ++ extension) =
      if stem = "" then ("." ++ extension, none) else (stem, some extension) := by
  have others : ∀ c ∈ extension.toList.reverse, decide (c ≠ '.') = true := by
    intro c mem
    exact decide_eq_true fun dot => last (dot ▸ List.mem_reverse.1 mem)
  have reversed : (stem ++ "." ++ extension).toList.reverse =
      extension.toList.reverse ++ '.' :: stem.toList.reverse := by simp
  rw [splitExtension, reversed, List.dropWhile_append_of_pos others,
    List.takeWhile_append_of_pos others]
  by_cases empty : stem = ""
  · simp [empty]
  · simp [empty]

theorem exists_last_dot {name : String} (dot : '.' ∈ name.toList) :
    ∃ stem extension : String, '.' ∉ extension.toList ∧ name = stem ++ "." ++ extension := by
  obtain ⟨tail, head, reversed, last⟩ := List.eq_append_cons_of_mem (List.mem_reverse.2 dot)
  refine ⟨.ofList head.reverse, .ofList tail.reverse, by simpa using last, ?_⟩
  rw [← String.toList_inj, ← List.reverse_inj, reversed]
  simp

theorem splitExtension_eq_some {name stem extension : String} :
    splitExtension name = (stem, some extension) ↔
      stem ≠ "" ∧ '.' ∉ extension.toList ∧ name = stem ++ "." ++ extension := by
  constructor
  · intro split
    by_cases dot : '.' ∈ name.toList
    · obtain ⟨stem', extension', last, rfl⟩ := exists_last_dot dot
      rw [splitExtension_dot last] at split
      split_ifs at split with empty
      · cases split
      · cases split
        exact ⟨empty, last, rfl⟩
    · rw [splitExtension_plain dot] at split
      cases split
  · rintro ⟨stem_ne, last, rfl⟩
    rw [splitExtension_dot last, if_neg stem_ne]

end FileTree

namespace Import

/-- A name that ends like a file of JSON lines, compressed or not. -/
def HoldsEvents (name : String) : Prop :=
  ∃ stem extension : String, stem ≠ "" ∧ extension ∈ ["jsonl", "json", "ndjson"] ∧
    (name = stem ++ "." ++ extension ∨ name = stem ++ "." ++ extension ++ ".gz")

theorem dot_not_mem_extension {extension : String}
    (listed : extension ∈ ["jsonl", "json", "ndjson"]) : '.' ∉ extension.toList := by
  simp only [List.mem_cons, List.not_mem_nil, or_false] at listed
  rcases listed with rfl | rfl | rfl <;> decide

theorem File.holdsEvents_iff {name : String} : holdsEvents name = true ↔ HoldsEvents name := by
  have inner : holdsEvents name = true ↔ ∃ extension ∈ ["jsonl", "json", "ndjson"],
      (if (FileTree.splitExtension name).2 = some "gz"
        then (FileTree.splitExtension (FileTree.splitExtension name).1).2
        else (FileTree.splitExtension name).2) = some extension := by
    simp [holdsEvents, or_assoc]
  rw [inner]
  constructor
  · rintro ⟨extension, listed, found⟩
    rcases outer : FileTree.splitExtension name with ⟨stem, last⟩
    rw [outer] at found
    dsimp only at found
    split_ifs at found with compressed
    · rcases split : FileTree.splitExtension stem with ⟨stem', last'⟩
      rw [split] at found
      subst compressed found
      obtain ⟨-, -, rfl⟩ := FileTree.splitExtension_eq_some.1 outer
      obtain ⟨nonempty, -, rfl⟩ := FileTree.splitExtension_eq_some.1 split
      exact ⟨stem', extension, nonempty, listed, .inr (by simp [String.append_assoc])⟩
    · subst found
      obtain ⟨nonempty, -, rfl⟩ := FileTree.splitExtension_eq_some.1 outer
      exact ⟨stem, extension, nonempty, listed, .inl rfl⟩
  · rintro ⟨stem, extension, nonempty, listed, rfl | rfl⟩
    · have split := FileTree.splitExtension_eq_some.2
        ⟨nonempty, dot_not_mem_extension listed, rfl⟩
      have plain : extension ≠ "gz" := by
        rintro rfl
        simp at listed
      exact ⟨extension, listed, by simp [split, plain]⟩
    · have split := FileTree.splitExtension_eq_some.2
        ⟨nonempty, dot_not_mem_extension listed, rfl⟩
      have outer : FileTree.splitExtension (stem ++ "." ++ extension ++ ".gz") =
          (stem ++ "." ++ extension, some "gz") :=
        FileTree.splitExtension_eq_some.2 ⟨by simp [nonempty], by decide, by
          simp [String.append_assoc]⟩
      exact ⟨extension, listed, by simp [outer, split]⟩

/-- The files that an input stands for. -/
inductive Selects (tree : FileTree) (input : String) : List File → Prop where
  | single {names : List String} {bytes : List UInt8} (found : tree.locate input = some names)
      (file : tree.bytes? names = some bytes) :
      Selects tree input [⟨names.getLastD "", bytes, tree.barred? names⟩]
  | directory {names : List String} {files : List File}
      (found : tree.locate input = some names) (noFile : tree.bytes? names = none)
      (directory : tree.isDirectory names = true) (opens : tree.barred? names = none)
      (named : ∀ f ∈ files, HoldsEvents f.name)
      (complete : ∀ f : File, HoldsEvents f.name → files.count f =
        if f.barred = tree.barred? (names ++ [f.name])
          then tree.files.count (names ++ [f.name], f.bytes) else 0)
      (sorted : files.Pairwise fun f g => f.name ≤ g.name) :
      Selects tree input files

theorem count_entries (tree : FileTree) (names : List String) (name : String)
    (bytes : List UInt8) :
    (tree.entries names).count (name, bytes) = tree.files.count (names ++ [name], bytes) := by
  rw [FileTree.entries, (List.mergeSort_perm _ _).count_eq, List.count_filterMap, List.count]
  refine List.countP_congr fun ⟨path, content⟩ _ => ?_
  simp only [beq_iff_eq, Prod.mk.injEq]
  rcases List.eq_nil_or_concat path with rfl | ⟨front, last, rfl⟩
  · simp
  · simp only [List.concat_eq_append, List.dropLast_concat, List.getLast?_concat, Option.map_some]
    split_ifs with here
    · simp [here]
    · simp [here]

theorem sorted_entries (tree : FileTree) (names : List String) :
    (tree.entries names).Pairwise fun a b => a.1 ≤ b.1 := by
  refine (List.pairwise_mergeSort (fun a b c first second => ?_) (fun a b => ?_) _).imp
    of_decide_eq_true
  · simp only [decide_eq_true_eq] at *
    exact String.le_trans first second
  · simpa using String.le_total a.1 b.1

/-- Why there are no files to read. -/
inductive Unselected (tree : FileTree) (input : String) : Error → Prop where
  | missing (lost : ∀ names, tree.locate input = some names →
        tree.bytes? names = none ∧ tree.isDirectory names = false) :
      Unselected tree input (.io ("Input path does not exist: " ++ input))
  | barred {names : List String} {reason : String} (found : tree.locate input = some names)
      (noFile : tree.bytes? names = none) (directory : tree.isDirectory names = true)
      (barred : tree.barred? names = some reason) : Unselected tree input (.io reason)

/-- The file that stands for an entry of a directory. -/
def fileOf (tree : FileTree) (names : List String) (entry : String × List UInt8) : File :=
  ⟨entry.1, entry.2, tree.barred? (names ++ [entry.1])⟩

theorem count_fileOf (tree : FileTree) (names : List String) (entries : List (String × List UInt8))
    (f : File) :
    (entries.map (fileOf tree names)).count f =
      if f.barred = tree.barred? (names ++ [f.name]) then entries.count (f.name, f.bytes)
      else 0 := by
  have injective : Function.Injective (fileOf tree names) := fun a b same =>
    Prod.ext (congrArg File.name same) (congrArg File.bytes same)
  split_ifs with bar
  · have listed := List.count_map_of_injective entries _ injective (f.name, f.bytes)
    rwa [fileOf, ← bar] at listed
  · refine List.count_eq_zero.2 fun mem => ?_
    obtain ⟨entry, -, rfl⟩ := List.mem_map.1 mem
    exact bar rfl

theorem File.selects_of_select {tree : FileTree} {input : String} {files : List File}
    (selected : File.select tree input = .ok files) : Selects tree input files := by
  unfold File.select at selected
  dsimp only at selected
  split at selected
  · cases selected
  next names found =>
    split at selected
    next bytes file =>
      cases selected
      exact .single found file
    next noFile =>
      split_ifs at selected with directory
      split at selected
      · cases selected
      next opens =>
        cases selected
        refine .directory found noFile directory opens (fun f mem => ?_) (fun f named => ?_) ?_
        · obtain ⟨entry, inside, rfl⟩ := List.mem_map.1 mem
          exact holdsEvents_iff.1 (List.mem_filter.1 inside).2
        · have listed := count_fileOf tree names
            ((tree.entries names).filter fun f => holdsEvents f.1) f
          rwa [List.count_filter (by exact holdsEvents_iff.2 named), count_entries] at listed
        · exact List.pairwise_map.2 ((sorted_entries tree names).filter _)

theorem File.unselected {tree : FileTree} {input : String} {e : Error}
    (selected : File.select tree input = .error e) :
    Unselected tree input e ∧ ∀ files, ¬ Selects tree input files := by
  unfold File.select at selected
  dsimp only at selected
  split at selected
  next lost =>
    cases selected
    refine ⟨.missing (by simp [lost]), fun files selects => ?_⟩
    cases selects <;> simp_all
  next names found =>
    split at selected
    · cases selected
    next noFile =>
      split_ifs at selected with directory
      · split at selected
        next reason barred =>
          cases selected
          refine ⟨.barred found noFile directory barred, fun files selects => ?_⟩
          cases selects <;> simp_all
        · cases selected
      · cases selected
        refine ⟨.missing (by simp [found, noFile, directory]), fun files selects => ?_⟩
        cases selects <;> simp_all

end Import
end RelayStore
