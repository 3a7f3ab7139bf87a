import TextRelay.Proofs.Pipe.Stream

/-!
# Pieces of chunks

A reader with a buffer cuts every chunk into consecutive pieces that fit, the last one possibly
shorter, and never joins two chunks. So the receipts to come are known beforehand: `backlog` lists
them, and each receive call takes off the first.
-/

namespace TextRelay

/-- Cuts bytes into consecutive pieces of a size, the last one possibly shorter. -/
def cut (size : Nat) (data : Bytes) : List Bytes :=
  if _h : data = [] ∨ size = 0 then []
  else data.take size :: cut size (data.drop size)
termination_by data.length
decreasing_by
  have hpos : 0 < data.length := List.length_pos_iff.2 fun hnil => _h (.inl hnil)
  rw [List.length_drop]
  omega

@[simp] theorem cut_nil (size : Nat) : cut size [] = [] := by
  rw [cut]
  simp

theorem cut_of_ne {size : Nat} (hsize : 0 < size) {data : Bytes} (hdata : data ≠ []) :
    cut size data = data.take size :: cut size (data.drop size) := by
  rw [cut, dif_neg]
  rintro (hnil | hzero)
  · exact hdata hnil
  · omega

/-- The pieces put together are the bytes. -/
theorem flatten_cut {size : Nat} (hsize : 0 < size) (data : Bytes) :
    (cut size data).flatten = data := by
  by_cases hdata : data = []
  · subst hdata
    simp
  · have hshorter : (data.drop size).length < data.length := by
      have hpos := List.length_pos_iff.2 hdata
      rw [List.length_drop]
      omega
    rw [cut_of_ne hsize hdata, List.flatten_cons, flatten_cut hsize, List.take_append_drop]
termination_by data.length

/-- The one piece that a receipt is, or none at the end of the stream. -/
def asPiece (data : Bytes) : List Bytes := if data = [] then [] else [data]

@[simp] theorem asPiece_nil : asPiece [] = [] := rfl

theorem asPiece_of_ne {data : Bytes} (hdata : data ≠ []) : asPiece data = [data] :=
  if_neg hdata

namespace Pipe

/-- What the receive calls of an end's only reader are going to return. -/
def backlog (p : Pipe) (side : Side) (h size : Nat) : List Bytes :=
  cut size (p.pendingOf h) ++ (p.lane side).flatMap (cut size)

variable {p p' : Pipe} {side : Side} {h size : Nat}

theorem SameStream.backlog (hs : SameStream side h p p') (size : Nat) :
    p'.backlog side h size = p.backlog side h size := by
  rw [Pipe.backlog, Pipe.backlog, hs.pending, hs.lane]

theorem backlog_of_unread_nil (hp : p.Sound) (hunread : p.unread side h = []) :
    p.backlog side h size = [] := by
  obtain ⟨hpending, hflat⟩ := List.append_eq_nil_iff.1 hunread
  rw [backlog, hpending, hp.lane_eq_nil hflat, cut_nil]
  rfl

theorem backlog_append {chunk : Bytes} (hpending : p'.pendingOf h = p.pendingOf h)
    (hlane : p'.lane side = p.lane side ++ [chunk]) :
    p'.backlog side h size = p.backlog side h size ++ cut size chunk := by
  rw [backlog, backlog, hpending, hlane, List.flatMap_append, List.flatMap_singleton,
    List.append_assoc]

/-- **A receive call returns the first of the pieces to come.** -/
theorem Reader.backlog_receive (hr : p.Reader side h) (hp : p.Sound) (hsize : 0 < size)
    {data : Bytes} (hreceive : p.receive h size = some (.ok data, p')) :
    p.backlog side h size = asPiece data ++ p'.backlog side h size := by
  obtain ⟨handle, hget, rfl⟩ := hr.own
  obtain ⟨hne, ha, rfl⟩ | ⟨hpending, chunk, rest, hlane, ha, rfl⟩ |
    ⟨hpending, hlane, -, ha, rfl⟩ := receive_cases hget hsize hreceive
  · cases ha
    have htake : handle.pending.take size ≠ [] := by
      rw [ne_eq, List.take_eq_nil_iff]
      rintro (h0 | h0)
      · omega
      · exact hne h0
    rw [asPiece_of_ne htake, backlog, backlog, lane_setHandle, pendingOf_setHandle hget, if_pos rfl,
      pendingOf_eq hget, cut_of_ne hsize hne]
    rfl
  · cases ha
    have hchunk : chunk ≠ [] := hp.chunk_ne handle.side chunk (hlane ▸ List.mem_cons_self)
    have htake : chunk.take size ≠ [] := by
      rw [ne_eq, List.take_eq_nil_iff]
      rintro (h0 | h0)
      · omega
      · exact hchunk h0
    have hget' : (p.setLane rest handle.side).handles[h]? = some handle := by simpa using hget
    rw [asPiece_of_ne htake, backlog, backlog, lane_setHandle, lane_setLane, if_pos rfl,
      pendingOf_setHandle hget', if_pos rfl, pendingOf_eq hget, hpending, hlane, cut_nil,
      List.nil_append, List.flatMap_cons, cut_of_ne hsize hchunk]
    rfl
  · cases ha
    rw [asPiece_nil, List.nil_append, backlog, backlog, lane_setHandle, pendingOf_setHandle hget,
      if_pos rfl, pendingOf_eq hget]

end Pipe

end TextRelay
