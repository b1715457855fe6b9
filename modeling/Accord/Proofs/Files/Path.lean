import Accord.Profile.Store
import Accord.Proofs.Text.Pieces

/-!
# Parts of joined paths

The parts of a joined path are those of the two paths it is joined from.
-/

namespace Accord

namespace Path

theorem splitSlashes_eq_splitOn (l : List Char) : splitSlashes l = l.splitOn '/' :=
  Text.eq_splitOn rfl (fun _ _ => rfl) l

theorem splitSlashes_append_slash (l r : List Char) :
    splitSlashes (l ++ '/' :: r) = splitSlashes l ++ splitSlashes r := by
  simp only [splitSlashes_eq_splitOn, List.splitOn_append_cons_self]

theorem parts_slash (a b : String) : parts (a ++ "/" ++ b) = parts a ++ parts b := by
  have hchars : (a ++ "/" ++ b).toList = a.toList ++ '/' :: b.toList := by simp
  rw [parts, hchars, splitSlashes_append_slash, List.map_append]
  rfl

theorem parts_join {base next : String} (hnext : isAbsolute next = false) (hbase : base ≠ "")
    (hend : base.toList.getLast? ≠ some '/') :
    parts (join base next) = parts base ++ parts next := by
  unfold join
  rw [hnext, if_neg Bool.false_ne_true, if_neg (by simp [hbase, hend]), parts_slash]

/-- Nothing but a slash at the end of the first path makes a difference. -/
theorem mem_parts_join {base next part : String} (hnext : isAbsolute next = false)
    (h : part ∈ parts (join base next)) : part ∈ parts base ∨ part ∈ parts next := by
  by_cases hbase : base = ""
  · rw [join, hnext, if_neg Bool.false_ne_true, if_pos (.inl hbase), hbase,
      String.empty_append] at h
    exact .inr h
  · by_cases hend : base.toList.getLast? = some '/'
    · obtain ⟨l, hl⟩ := List.getLast?_eq_some_iff.1 hend
      have hchars : (base ++ next).toList = l ++ '/' :: next.toList := by
        rw [String.toList_append, hl]
        simp
      rw [join, hnext, if_neg Bool.false_ne_true, if_pos (.inr hend), parts, hchars,
        splitSlashes_append_slash, List.map_append, List.mem_append] at h
      refine h.imp_left fun h => ?_
      rw [parts, hl, splitSlashes_append_slash, List.map_append, List.mem_append]
      exact .inl h
    · rw [parts_join hnext hbase hend, List.mem_append] at h
      exact h

theorem getLast?_join {base next : String} (hnext : next ≠ "") :
    (join base next).toList.getLast? = next.toList.getLast? := by
  have hlist : next.toList ≠ [] := fun h => hnext (String.toList_eq_nil_iff.1 h)
  have hlast : ∀ l : List Char, (l ++ next.toList).getLast? = next.toList.getLast? := by
    intro l
    rw [List.getLast?_append, List.getLast?_eq_some_getLast hlist]
    rfl
  unfold join
  split
  · rfl
  · split
    · rw [String.toList_append, hlast]
    · rw [String.toList_append, hlast]

end Path

/-- The last part of the local path is the name of the file. -/
theorem parts_localPath (project : String) :
    ∃ parts, Path.parts (localPath project) = parts ++ [profileFile] := by
  have hend : (Path.join project ".pgconverge").toList.getLast? = some 'e' :=
    Path.getLast?_join (by decide)
  refine ⟨Path.parts (Path.join project ".pgconverge"), ?_⟩
  unfold localPath
  rw [Path.parts_join rfl (by rintro h; rw [h] at hend; cases hend)
    (by rw [hend]; decide)]
  rfl

/-- The local path goes up only where the path of the project does. -/
theorem up_not_mem_localPath {project : String} (h : ".." ∉ Path.parts project) :
    ".." ∉ Path.parts (localPath project) := by
  intro hup
  rcases Path.mem_parts_join rfl hup with hup | hup
  · rcases Path.mem_parts_join rfl hup with hup | hup
    · exact h hup
    · exact absurd hup (by decide)
  · exact absurd hup (by decide)

end Accord
