import CommandShell.Proofs.Builtin.Effect
import CommandShell.Proofs.Builtin.Names
import CommandShell.Proofs.Builtin.Voice
import CommandShell.Proofs.Execution.Outcome
import CommandShell.Proofs.Json.Reading

/-!
An interpreter that was started raises nothing but for want of room. Every value in its store has a
text, since it was read from a file or put there as a text, and so has every failure of a built-in
command.
-/

namespace CommandShell

namespace Store

theorem load_writable {bound : Json.Bound} {d : Disk} {p : Path} {entries : OrderedMap String Json}
    (h : load bound d p = .ok entries) : ∀ e ∈ entries.entries, e.2.isWritable = true := by
  rw [load] at h
  split at h
  · cases h
    exact List.forall_mem_nil _
  · split at h
    · rename_i hr
      cases h
      exact fun e he => Json.isWritable_obj.mp (Json.read_writable hr) e
        (OrderedMap.mem_of_mem_ofList he)
    · contradiction
    · cases h
      exact List.forall_mem_nil _

theorem open_writable {r : Room} {d : Disk} {file : Option Path} {st : Store}
    (h : open_ r d file = .ok st) : st.Writable := by
  rw [open_.eq_def] at h
  split at h
  · cases h
    exact List.forall_mem_nil _
  · split at h
    · contradiction
    · cases h
      exact List.forall_mem_nil _
    · split at h
      · contradiction
      · cases h
        exact load_writable ‹_›

end Store

/-- Whether every value that a session keeps has a text. -/
abbrev Session.Writable (x : Session) : Prop :=
  x.store.Writable

namespace Builtin

open Stack (Among Spills Worded served)

theorem worded : Worded registry Session.Writable where
  wordless h := h.elim
  step {x i f} hx hs := by
    obtain ⟨⟨v, hv, hw⟩, -⟩ := Alias.step_eq_error.mp hs
    rw [hx _ (OrderedMap.mem_of_get? hv)] at hw
    contradiction
  clear hx := hx
  does {i c} hf :=
    (builtin_does registry.directory i.args c (mem_all_of_find? hf).1).mono fun _ _ hg => hg.writable
  voices {i c} hf := builtin_voices registry.directory i.args c (mem_all_of_find? hf).1

section Started

variable {c : Settings} {announces : Bool} {w : Surroundings} {s : Shell}

theorem among_of_settings (h : Shell.ofSettings c announces w = .ok s) :
    Among registry Session.Writable s := by
  refine ⟨registry_of_settings h, ?_⟩
  rw [Shell.ofSettings] at h
  split at h
  · contradiction
  · contradiction
  · rw [Shell.start] at h
    split at h
    · contradiction
    · contradiction
    · rename_i hopen _
      cases h
      exact Store.open_writable hopen

theorem among_served (hs : Among registry Session.Writable s)
    (requests : List (Room × Stack.Request)) :
    Among registry Session.Writable (served requests s).2 :=
  ⟨(Stack.served_kept requests s).registry_eq.trans hs.registry_eq,
    worded.account.served requests s hs.registry_eq hs.session⟩

/-- Running a line fails where the stack is used up, and nowhere else. -/
theorem runLine_spills (hs : Among registry Session.Writable s) {room : Room} {line : String}
    {f : Fault}
    (h : (Stack.runLine room line s).1 = .error f) : Spills room f := by
  rw [← Stack.watchLine_fst] at h
  exact (worded.line room line s f hs h).resolve_right id

/-- Whatever an interpreter has served since it was started, every line and every call has
results, as long as there is room for them. -/
theorem started_total (h : Shell.ofSettings c announces w = .ok s)
    (requests : List (Room × Stack.Request)) :
    let s' := (served requests s).2
    (∀ line, ∃ rs, (Stack.runInput none line s').1 = .ok rs) ∧
      ∀ i, ∃ result, (Stack.dispatch none i s').1 = .ok result := by
  intro s'
  have hs : Among registry Session.Writable s' := among_served (among_of_settings h) requests
  exact ⟨worded.runInput hs, worded.dispatch hs⟩

end Started

end Builtin

end CommandShell
