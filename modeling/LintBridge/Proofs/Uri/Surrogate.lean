import LintBridge.Proofs.Json.CodePoints
import LintBridge.Proofs.Uri.Readable

/-!
# Paths with surrogates in them

A path that the linter has written may hold surrogates. None of the characters that a path is split
at is one, so that it has the parts that it has with characters in their place. Each of the parts is
encoded, and **no path with a surrogate in it can be**, wherever it stands
(`LintBridge.Uri.ofPathCodePoints_eq_ok`).
-/

namespace LintBridge.Uri

open Json (CodePoint CodePoints)

variable {text : CodePoints}

/-- A host and the two slashes in front of it are split off the path, or nothing is. -/
theorem splitHost_eq_ok {s host below : List Char} (h : splitHost s = .ok (host, below)) :
    s = below ∨ s = '/' :: '/' :: host ++ below := by
  unfold splitHost at h
  split at h
  · rename_i rest
    dsimp only at h
    split at h
    · cases h
    · rename_i hbelow
      cases h
      refine .inr ?_
      have hsplit := List.takeWhile_append_dropWhile (p := (· != '/')) (l := rest)
      have hdrop : rest.drop (rest.takeWhile (· != '/')).length = rest.dropWhile (· != '/') :=
        (congrArg (List.drop _) hsplit).symm.trans List.drop_left
      rw [hdrop, List.cons_append, List.cons_append, hsplit]
  · cases h
    exact .inl rfl

theorem fault?_rooted {path : CodePoints} : (rooted path).fault? = none ↔ path.fault? = none := by
  unfold rooted
  split
  · rfl
  · simp [CodePoints.fault?_eq_none_iff, CodePoint.isSurrogate]

theorem fault?_belowDrive {path : CodePoints} :
    (belowDrive path).fault? = none ↔ path.fault? = none := by
  unfold belowDrive
  split
  · split
    · simp [CodePoints.fault?_eq_none_iff, CodePoint.isSurrogate]
    · rfl
  · rfl

/-- What stands in front of the part of a path that is encoded is no surrogate. -/
theorem fault?_encodedPart {path : CodePoints} :
    (encodedPart path).fault? = none ↔ path.fault? = none :=
  fault?_belowDrive.trans fault?_rooted

/-- The two slashes in front of a host are none either. -/
theorem fault?_host {host : List Char} (h : text.map CodePoint.toChar = '/' :: '/' :: host) :
    CodePoints.fault? (text.drop 2) = none ↔ text.fault? = none := by
  have hslash : ∀ p : CodePoint, p.toChar = '/' → p.isSurrogate = false := by
    rintro (c | n) hp
    · rfl
    · have hne : '\uFFFD' ≠ '/' := by decide
      exact absurd hp hne
  obtain ⟨p, rest, rfl, hp, h⟩ := List.map_eq_cons_iff.mp h
  obtain ⟨q, rest, rfl, hq, -⟩ := List.map_eq_cons_iff.mp h
  simp [CodePoints.fault?_eq_none_iff, hslash p hp, hslash q hq]

/-- **Both parts of a path can be encoded exactly if the path can.** -/
theorem fault?_parts {host below : List Char}
    (h : splitHost text.toString.toList = .ok (host, below)) :
    (encodedPart (text.drop (text.length - below.length))).fault? = none ∧
      CodePoints.fault? ((text.take (text.length - below.length)).drop 2) = none ↔
    text.fault? = none := by
  rw [CodePoints.toList_toString] at h
  have hlength : (text.map CodePoint.toChar).length = text.length := List.length_map _
  have hwhole : CodePoints.fault? (text.drop (text.length - below.length)) = none ∧
      CodePoints.fault? (text.take (text.length - below.length)) = none ↔ text.fault? = none := by
    rw [and_comm, ← CodePoints.fault?_append_eq_none_iff, List.take_append_drop]
  rw [fault?_encodedPart, ← hwhole]
  refine and_congr_right fun _ => ?_
  rcases splitHost_eq_ok h with hpath | hpath
  · -- There is no host, and nothing in front of the path.
    have hnone : text.length - below.length = 0 := by
      rw [← hlength, hpath]
      exact Nat.sub_self _
    rw [hnone]
    rfl
  · have hlong : text.length - below.length = ('/' :: '/' :: host).length := by
      rw [← hlength, hpath, List.length_append]
      exact Nat.add_sub_cancel _ _
    have hfront : (text.take (text.length - below.length)).map CodePoint.toChar =
        '/' :: '/' :: host := by
      rw [hlong, List.map_take, hpath]
      exact List.take_left
    exact fault?_host hfront

/-- **A path has the URI that it has as a string**, and none if there are surrogates in it. -/
theorem ofPathCodePoints_eq_ok {uri : String} :
    ofPathCodePoints text = .ok uri ↔ text.fault? = none ∧ ofPathText text.toString = .ok uri := by
  have hencoded : ∀ t : CodePoints,
      (∃ s, t.encode?.mapError Error.unencodable = .ok s) ↔ t.fault? = none := fun t => by
    simp only [mapError_eq_ok, CodePoints.encode?_eq_ok, CodePoints.fault?_eq_none_iff_eq_ofString]
    exact ⟨fun ⟨s, hs⟩ => by rw [hs, CodePoints.toString_ofString], fun h => ⟨_, h⟩⟩
  unfold ofPathCodePoints
  simp only [bind_eq_ok]
  constructor
  · rintro ⟨⟨host, below⟩, hsplit, path, hpath, front, hfront, huri⟩
    have hparts := And.intro ((hencoded _).mp ⟨path, hpath⟩) ((hencoded _).mp ⟨front, hfront⟩)
    exact ⟨(fault?_parts hsplit).mp hparts, huri⟩
  · rintro ⟨hfault, huri⟩
    obtain ⟨⟨host, below⟩, hsplit, -⟩ := bind_eq_ok.mp huri
    obtain ⟨hpath, hfront⟩ := (fault?_parts hsplit).mpr hfault
    obtain ⟨path, hpath⟩ := (hencoded _).mpr hpath
    obtain ⟨front, hfront⟩ := (hencoded _).mpr hfront
    exact ⟨_, hsplit, path, hpath, front, hfront, huri⟩

end LintBridge.Uri
