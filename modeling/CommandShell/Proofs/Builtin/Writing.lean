import CommandShell.Proofs.Builtin.Lines
import CommandShell.Proofs.Execution.Action
import CommandShell.Proofs.Syntax.Words
import CommandShell.Startup

/-!
Files that are written by commands and read again. Reading gives the lines of the last text that
began the file anew and of those appended to it since.
-/

namespace CommandShell

namespace Builtin.File

open Stack (dispatch)
open Text (IsText isLineEnd)

/-! ## What is written -/

/-- A text, given by its words, that is written into a file or appended to it. -/
structure Entry where
  append : Bool
  words : List String
  deriving DecidableEq, Repr

namespace Entry

/-- The arguments that write an entry into a file. -/
def args (target : String) (e : Entry) : List String :=
  target :: (if e.append then [appendFlag] else []) ++ e.words

def text (e : Entry) : String :=
  Text.joinWords e.words

/-- Whether the words of an entry are texts without line ends, and none of them is a flag. -/
structure Proper (e : Entry) : Prop where
  no_flag : appendFlag ∉ e.words
  isText : ∀ w ∈ e.words, IsText w.toList
  no_end : ∀ w ∈ e.words, ∀ c ∈ w.toList, isLineEnd c = false

end Entry

/-- The last entry that is not appended with all that follow it, or all if there is none. -/
def latest : List Entry → List Entry
  | [] => []
  | e :: rest => if rest.all Entry.append then e :: rest else latest rest

section Joined

variable {ws : List String} {c : Char}

theorem isText_joinWords (h : ∀ w ∈ ws, IsText w.toList) : IsText (Text.joinWords ws).toList := by
  induction ws with
  | nil => exact ⟨[], by simp, rfl⟩
  | cons w ws ih =>
      rw [List.forall_mem_cons] at h
      by_cases hn : ws = []
      · subst hn
        simpa [Text.joinWords] using h.1
      · have hs : IsText [' '] := .of_forall (by simp [Text.Code.setAside])
        rw [Syntax.joinWords_cons hn]
        exact h.1.append (hs.append (ih h.2))

theorem mem_joinWords (h : c ∈ (Text.joinWords ws).toList) :
    c = ' ' ∨ ∃ w ∈ ws, c ∈ w.toList := by
  induction ws with
  | nil => simp [Text.joinWords] at h
  | cons w ws ih =>
      by_cases hn : ws = []
      · subst hn
        exact .inr ⟨w, by simp, by simpa [Text.joinWords] using h⟩
      · rw [Syntax.joinWords_cons hn, List.mem_append, List.mem_cons] at h
        rcases h with h | h | h
        · exact .inr ⟨w, by simp, h⟩
        · exact .inl h
        · obtain hs | ⟨v, hv, hc⟩ := ih h
          · exact .inl hs
          · exact .inr ⟨v, List.mem_cons_of_mem _ hv, hc⟩

end Joined

section Made

variable {e : Entry} {ls : List String} (hp : e.Proper) (hm : Makes e.text ls)
include hp hm

theorem Makes.isText : ∀ l ∈ ls, IsText l.toList := by
  rw [Makes] at hm
  split at hm
  · simp [hm]
  · refine isText_intercalate ?_
    rw [hm.joined]
    exact isText_joinWords hp.isText

theorem Makes.no_end : ∀ l ∈ ls, ∀ c ∈ l.toList, isLineEnd c = false := by
  rw [Makes] at hm
  split at hm
  · simp [hm]
  · intro l hl c hc
    have hj := mem_intercalate hl hc
    rw [hm.joined] at hj
    rcases mem_joinWords hj with rfl | ⟨w, hw, hc⟩
    · decide
    · exact hp.no_end w hw c hc

end Made

/-! ## One call -/

section Action

variable {x y : Session} {o : Output} {target : String} {p : Path} {e : Entry} {ls ms : List String}

/-- Behind the flag, if any, are the words. -/
theorem flagged_words (hp : e.Proper) :
    ((if e.append then [appendFlag] else []) ++ e.words).contains appendFlag = e.append ∧
      ((if e.append then [appendFlag] else []) ++ e.words).filter (· ≠ appendFlag) = e.words := by
  have hw : e.words.filter (· ≠ appendFlag) = e.words :=
    List.filter_eq_self.mpr fun w hw => decide_eq_true fun he => hp.no_flag (he ▸ hw)
  rw [List.filter_append, hw]
  cases e.append <;> simp [hp.no_flag]

theorem write_ok (hr : x.resolve target = .ok p) (hp : e.Proper) (hm : Makes e.text ms)
    (h : File.write (e.args target) x = (.ok o, y)) :
    store x.disk p e.append (ms.map ended) = (.ok (), y.disk) := by
  obtain ⟨hflag, hwords⟩ := flagged_words hp
  rw [Entry.args, List.cons_append] at h
  generalize (if e.append then [appendFlag] else []) ++ e.words = args at h hflag hwords
  cases args with
  | nil => cases h
  | cons word words =>
      rw [File.write, Session.withPath, hr] at h
      simp only [hflag, hwords] at h
      rw [← Entry.text, hm.content_eq] at h
      cases hs : store x.disk p e.append (ms.map ended) with
      | mk r disk =>
          rw [hs] at h
          cases r with
          | error f => cases h
          | ok done =>
              cases h
              rfl

theorem read_eq {args : List String} (hr : x.resolve target = .ok p)
    (ha : args.filter (· ≠ numberFlag) = [target]) (hh : Holds x.disk p ls) :
    File.read args x = x.answer
      (.text (Text.joinLines (if args.contains numberFlag then number ls else ls))) := by
  rw [File.read, ha]
  simp only [Session.withPath, hr, Disk.isFile_of_readBytes hh.bytes, hh.readLines_eq]

end Action

section Call

variable {s s' : Shell} {r : Except Fault Result} {name target : String} {p : Path} {e : Entry}
  {ls ms : List String}

/-- A call that succeeds has stored the lines of its text. -/
theorem dispatch_write_ok (hf : s.registry.find? name = some Builtin.write)
    (hr : s.session.resolve target = .ok p) (hp : e.Proper) (hm : Makes e.text ms)
    (h : dispatch none ⟨name, e.args target⟩ s = (r, s')) (hk : Stack.succeeds r = true) :
    store s.session.disk p e.append (ms.map ended) = (.ok (), s'.session.disk) := by
  rw [Stack.dispatch_action hf (by decide) rfl] at h
  cases hv : File.write (e.args target) s.session with
  | mk o x =>
      rw [hv] at h
      cases h
      obtain ⟨output, rfl⟩ := Stack.ok_of_succeeds hk
      exact write_ok hr hp hm hv

/-- A call that reads shows the lines of the file. -/
theorem dispatch_read (hf : s.registry.find? name = some Builtin.read)
    (hr : s.session.resolve target = .ok p) (hn : target ≠ numberFlag)
    (hh : Holds s.session.disk p ls) :
    dispatch none ⟨name, [target]⟩ s = (.ok (.success (Text.joinLines ls)), s) ∧
      dispatch none ⟨name, [target, numberFlag]⟩ s =
        (.ok (.success (Text.joinLines (number ls))), s) := by
  have hd : ∀ args, args.filter (· ≠ numberFlag) = [target] →
      dispatch none ⟨name, args⟩ s = (.ok (.success
        (Text.joinLines (if args.contains numberFlag then number ls else ls))), s) := by
    intro args ha
    rw [Stack.dispatch_action hf (by decide) rfl]
    rw [read_eq hr ha hh]
    rfl
  have hplain := hd [target] (by simp [hn])
  have hnumbered := hd [target, numberFlag] (by simp [hn])
  rw [if_neg (by simpa using Ne.symm hn)] at hplain
  rw [if_pos (by simp)] at hnumbered
  exact ⟨hplain, hnumbered⟩

end Call

/-! ## Calls one after another -/

/-- Whether a path is as it was, and the disk still a tree if it was one. -/
structure Untouched (p : Path) (d d' : Disk) : Prop where
  exists_eq : d'.exists? p = d.exists? p
  bytes_eq : d'.readBytes p = d.readBytes p
  rooted (h : d.Rooted) : d'.Rooted

/-- Calls that write entries one after another where a path leads, all of which succeed. Whatever
else goes on between them leaves the path alone. -/
inductive Written (p : Path) : List Entry → Shell → Shell → Prop
  | done (s) : Written p [] s s
  | other {entries s s' s''} (h : Untouched p s.session.disk s'.session.disk)
      (hw : Written p entries s' s'') : Written p entries s s''
  | write {e rest name target r s s' s''} (hf : s.registry.find? name = some Builtin.write)
      (hr : s.session.resolve target = .ok p)
      (hd : dispatch none ⟨name, e.args target⟩ s = (r, s')) (hk : Stack.succeeds r = true)
      (hw : Written p rest s' s'') : Written p (e :: rest) s s''

section Run

variable {d d' : Disk} {s s' : Shell} {p : Path} {entries : List Entry} {ls : List String}
  {lines : Entry → List String}

theorem Untouched.holds (h : Untouched p d d') (hh : Holds d p ls) : Holds d' p ls :=
  ⟨h.bytes_eq.trans hh.bytes, hh.legible⟩

/-- The lines of a file after an entry. -/
def extend (lines : Entry → List String) (ls : List String) (e : Entry) : List String :=
  if e.append then ls ++ lines e else lines e

theorem latest_of_all (h : entries.all Entry.append = true) : latest entries = entries := by
  cases entries with
  | nil => rfl
  | cons e rest =>
      rw [List.all_cons, Bool.and_eq_true] at h
      rw [latest, if_pos h.2]

/-- Only the latest entries count, and what was there before if all are appended. -/
theorem foldl_extend (lines : Entry → List String) (entries : List Entry) (ls : List String) :
    entries.foldl (extend lines) ls =
      (if entries.all Entry.append then ls else []) ++ (latest entries).flatMap lines := by
  induction entries generalizing ls with
  | nil => simp [latest]
  | cons e rest ih =>
      rw [List.foldl_cons, ih, latest, List.all_cons, extend]
      cases ha : rest.all Entry.append with
      | false => simp
      | true =>
          rw [latest_of_all ha]
          cases e.append <;> simp

theorem Written.holds (hp : ∀ e ∈ entries, e.Proper) (hm : ∀ e ∈ entries, Makes e.text (lines e))
    (hw : Written p entries s s') (hh : Holds s.session.disk p ls) :
    Holds s'.session.disk p (entries.foldl (extend lines) ls) := by
  induction hw generalizing ls with
  | done s => exact hh
  | other h _ ih => exact ih hp hm (h.holds hh)
  | write hf hr hd hk _ ih =>
      rw [List.forall_mem_cons] at hp hm
      have hs := dispatch_write_ok hf hr hp.1 hm.1 hd hk
      exact ih hp.2 hm.2 (hh.store (hm.1.isText hp.1) (hm.1.no_end hp.1) hs)

/-- Where there was nothing, the first call that writes makes the file. -/
theorem Written.holds_of_not_exists (hp : ∀ e ∈ entries, e.Proper)
    (hm : ∀ e ∈ entries, Makes e.text (lines e)) (hw : Written p entries s s')
    (hn : s.session.disk.exists? p = .ok false) (hr : s.session.disk.Rooted)
    (ha : p.isAbsolute = true) (hne : entries ≠ []) :
    Holds s'.session.disk p (entries.foldl (extend lines) []) := by
  induction hw with
  | done s => contradiction
  | other h _ ih => exact ih hp hm (h.exists_eq.trans hn) (h.rooted hr) hne
  | write hf hres hd hk hw _ =>
      rw [List.forall_mem_cons] at hp hm
      have hs := dispatch_write_ok hf hres hp.1 hm.1 hd hk
      have hh := Holds.of_store hr (Path.up_not_mem_of_resolve hres ha) hn (hm.1.isText hp.1)
        (hm.1.no_end hp.1) hs
      rw [List.foldl_cons, extend, List.nil_append, ite_self]
      exact hw.holds hp.2 hm.2 hh

end Run

/-- After calls that write to a path, reading gives the lines of the last one that was not appended
and of all that follow it. -/
theorem read_written {p : Path} {entries : List Entry} {s s' : Shell} {name target : String}
    (lines : Entry → List String) (hp : ∀ e ∈ entries, e.Proper)
    (hm : ∀ e ∈ entries, Makes e.text (lines e))
    (hs : s.session.disk.readBytes p = .ok .empty ∨
      s.session.disk.exists? p = .ok false ∧ s.session.disk.Rooted ∧ p.isAbsolute = true ∧
        entries ≠ [])
    (hw : Written p entries s s') (hf : s'.registry.find? name = some Builtin.read)
    (hr : s'.session.resolve target = .ok p) (hn : target ≠ numberFlag) :
    let ls := (latest entries).flatMap lines
    dispatch none ⟨name, [target]⟩ s' = (.ok (.success (Text.joinLines ls)), s') ∧
      dispatch none ⟨name, [target, numberFlag]⟩ s' =
        (.ok (.success (Text.joinLines
          (ls.mapIdx fun n l => Text.padLeft 4 (toString (n + 1)) ++ " | " ++ l))), s') ∧
      readLines s'.session.disk p = .ok ls ∧
      ∀ l ∈ ls, ∀ c ∈ l.toList, isLineEnd c = false := by
  intro ls
  have hh : Holds s'.session.disk p ls := by
    have hl : entries.foldl (extend lines) [] = ls := by
      rw [foldl_extend, ite_self, List.nil_append]
    rw [← hl]
    rcases hs with hs | ⟨hx, hroot, ha, hne⟩
    · exact hw.holds hp hm (.of_empty hs)
    · exact hw.holds_of_not_exists hp hm hx hroot ha hne
  obtain ⟨hplain, hnumbered⟩ := dispatch_read hf hr hn hh
  refine ⟨hplain, ?_, hh.readLines_eq, fun l hl => (hh.legible l hl).no_end⟩
  rw [hnumbered, number, List.mapIdx_eq_zipIdx_map]
  rfl

/-- A file that is begun anew with an empty line at its end, and a line that is appended. -/
theorem read_written_bare :
    let s := Shell.bare ((Registry.empty.register Builtin.write).register Builtin.read) 3
    let p : Path := ⟨.slash, ["f"]⟩
    let entries : List Entry := [⟨false, ["x"]⟩, ⟨false, ["a", "b\\n"]⟩, ⟨true, ["c"]⟩]
    let lines : Entry → List String := fun e =>
      if e.text = "" then [] else (pieces e.text.toList).map String.ofList
    let s' := entries.foldl (fun s e => (dispatch none ⟨"write", e.args "f"⟩ s).2) s
    ((∀ e ∈ entries, e.Proper) ∧ (∀ e ∈ entries, Makes e.text (lines e)) ∧
      (s.session.disk.exists? p = .ok false ∧ s.session.disk.Rooted ∧ p.isAbsolute = true ∧
        entries ≠ []) ∧
      Written p entries s s' ∧ s'.registry.find? "read" = some Builtin.read ∧
      s'.session.resolve "f" = .ok p ∧ "f" ≠ numberFlag) ∧
      dispatch none ⟨"read", ["f"]⟩ s' = (.ok (.success (Text.joinLines ["a b", "", "c"])), s') ∧
      dispatch none ⟨"read", ["f", "-n"]⟩ s' =
        (.ok (.success (Text.joinLines ["   1 | a b", "   2 | ", "   3 | c"])), s') := by
  intro s p entries lines s'
  have hp : ∀ e ∈ entries, e.Proper := by
    intro e he
    refine ⟨?_, fun w hw => IsText.of_all ?_, fun w hw => ?_⟩
    · revert e
      decide
    · revert e w
      decide
    · have hfree : w.toList.all (fun c => !isLineEnd c) = true := by
        revert e w
        decide
      simpa using hfree
  have hm : ∀ e ∈ entries, Makes e.text (lines e) := by
    intro e he
    simp only [entries, List.mem_cons, List.not_mem_nil, or_false] at he
    rcases he with rfl | rfl | rfl
    all_goals exact ⟨by decide, by decide⟩
  have step : ∀ {t : Shell} {e : Entry} {rest : List Entry}, s.Kept t →
      t.session.resolve "f" = .ok p →
      Stack.succeeds (dispatch none ⟨"write", e.args "f"⟩ t).1 = true →
      (s.Kept (dispatch none ⟨"write", e.args "f"⟩ t).2 →
        Written p rest (dispatch none ⟨"write", e.args "f"⟩ t).2 s') →
      Written p (e :: rest) t s' :=
    fun ht hr hk hw => .write (by rw [ht.registry_eq]; rfl) hr rfl hk
      (hw (ht.trans (Stack.dispatchWith_kept Stack.runLine_framed none _ _)))
  have hkept : s.Kept s' :=
    have hk := fun e t => Stack.dispatchWith_kept Stack.runLine_framed none
      ⟨"write", Entry.args "f" e⟩ t
    ((hk _ _).trans (hk _ _)).trans (hk _ _)
  have hw : Written p entries s s' := by
    refine step (.refl s) (by decide) (by decide) fun h => ?_
    refine step h (by decide +kernel) (by decide +kernel) fun h => ?_
    exact step h (by decide +kernel) (by decide +kernel) fun _ => .done _
  have hs : s.session.disk.exists? p = .ok false ∧ s.session.disk.Rooted ∧
      p.isAbsolute = true ∧ entries ≠ [] :=
    ⟨by decide, Disk.rooted_empty, by decide, by decide⟩
  have hf : s'.registry.find? "read" = some Builtin.read := by
    rw [hkept.registry_eq]
    rfl
  have hr : s'.session.resolve "f" = .ok p := by decide +kernel
  have hl : (latest entries).flatMap lines = ["a b", "", "c"] := by decide
  have hv := read_written lines hp hm (.inr hs) hw hf hr (by decide)
  simp only [hl] at hv
  obtain ⟨hread, hnumbered, -⟩ := hv
  exact ⟨⟨hp, hm, hs, hw, hf, hr, by decide⟩, hread, hnumbered⟩

/-- No calls at all make no file, and there is nothing to be read. -/
theorem read_unwritten :
    let s := Shell.bare ((Registry.empty.register Builtin.write).register Builtin.read) 3
    let p : Path := ⟨.slash, ["f"]⟩
    (s.session.disk.exists? p = .ok false ∧ s.session.disk.Rooted ∧ p.isAbsolute = true ∧
      Written p [] s s ∧ s.registry.find? "read" = some Builtin.read ∧
      s.session.resolve "f" = .ok p ∧ "f" ≠ numberFlag ∧ latest [] = []) ∧
      (dispatch none ⟨"read", ["f"]⟩ s).1 = .ok (.failure (Complaint.fileNotFound p).message) ∧
      (dispatch none ⟨"read", ["f"]⟩ s).1 ≠ .ok (.success (Text.joinLines [])) := by
  intro s p
  have hf : s.registry.find? "read" = some Builtin.read := rfl
  have hp : s.session.resolve "f" = .ok p := by decide
  have hread : File.read ["f"] s.session = s.session.object (.fileNotFound p) := by
    have ha : ["f"].filter (· ≠ numberFlag) = ["f"] := by decide
    have hx : s.session.disk.isFile p = .ok false := by decide
    rw [File.read, ha]
    simp only [Session.withPath, hp, hx]
  have hr : (dispatch none ⟨"read", ["f"]⟩ s).1 =
      .ok (.failure (Complaint.fileNotFound p).message) := by
    rw [Stack.dispatch_action hf (by decide) rfl, hread]
    rfl
  refine ⟨⟨by decide, Disk.rooted_empty, by decide, .done _, hf, hp, by decide, rfl⟩, hr, ?_⟩
  rw [hr]
  simp [Result.success, Result.failure]

end Builtin.File

end CommandShell
