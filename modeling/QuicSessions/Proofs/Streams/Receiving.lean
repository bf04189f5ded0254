import QuicSessions.Proofs.Streams.Recorder

/-!
# What a pass over the receive side consumes

The regions of a pass are, in order, the regions that the transport brought during the pass, and they
hold no more bytes than were asked for.
-/

set_option autoImplicit false

namespace QuicSessions

theorem regions_map (id j : StreamId) (bytes : List Bytes) :
    regions j (bytes.map (.region id)) = if id = j then bytes else [] := by
  unfold regions
  rw [List.filterMap_map]
  split
  · rename_i same
    have all : (Call.regionOf j ∘ Call.region id) = some := by
      funext region
      simp [Call.regionOf, same]
    rw [all, List.filterMap_some]
  · rename_i other
    have none_ : (Call.regionOf j ∘ Call.region id) = fun _ => none := by
      funext region
      simp [Call.regionOf, other]
    rw [none_]
    simp

namespace LiveStream

variable {τ : Type} [Transport τ]

theorem calls_pull (id : StreamId) (remaining : Nat) (r : Recorder τ) :
    (pull id remaining r).2.calls =
      r.calls ++ (pull id remaining r).1.regions.map (.region id) := by
  fun_induction pull id remaining r with
  | case1 remaining r more bytes ne le t h rest ih =>
    have first : t.calls = r.calls ++ [.region id bytes] := Recorder.calls_nextRegion h
    show (pull id (remaining - bytes.length) t).2.calls = _
    rw [ih, first, List.append_assoc]
    rfl
  | case2 remaining r more t h => exact Recorder.calls_nextRegion h
  | case3 remaining r more code t h => exact Recorder.calls_nextRegion h
  | case4 remaining r more t h => exact Recorder.calls_nextRegion h
  | case5 remaining r enough => exact (List.append_nil _).symm

theorem calls_readUpTo (s : LiveStream) (limit : Nat) (r : Recorder τ) :
    (s.readUpTo limit r).2.2.calls =
      r.calls ++ (s.readUpTo limit r).1.regions.map (.region s.id) := by
  unfold readUpTo
  split
  · exact (List.append_nil _).symm
  · split
    · exact (List.append_nil _).symm
    · rename_i r' begun
      show (pull s.id limit r').2.calls = _
      rw [calls_pull, Recorder.calls_beginRead begun]

theorem length_pull (id : StreamId) (remaining : Nat) (t : τ) :
    (pull id remaining t).1.bytes.length ≤ remaining := by
  fun_induction pull id remaining t with
  | case1 remaining t more bytes ne le t' h rest ih =>
    have ih : rest.1.bytes.length ≤ remaining - bytes.length := ih
    have both : (rest.1.prepend bytes).bytes.length = bytes.length + rest.1.bytes.length := by
      simp [ReadPass.bytes, ReadPass.prepend]
    show (rest.1.prepend bytes).bytes.length ≤ remaining
    omega
  | case2 remaining t more t' h => exact Nat.zero_le _
  | case3 remaining t more code t' h => exact Nat.zero_le _
  | case4 remaining t more t' h => exact Nat.zero_le _
  | case5 remaining t enough => exact Nat.zero_le _

theorem length_readUpTo (s : LiveStream) (limit : Nat) (t : τ) :
    (s.readUpTo limit t).1.bytes.length ≤ limit := by
  unfold readUpTo
  split
  · exact Nat.zero_le _
  · split
    · exact Nat.zero_le _
    · exact length_pull s.id limit _

end LiveStream

end QuicSessions
