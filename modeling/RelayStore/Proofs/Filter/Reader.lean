import RelayStore.Filter.Reader
import RelayStore.Proofs.Except
import RelayStore.Proofs.Tag.Constraints

/-! The tag constraints of a filter that was read are made by insertions. -/
namespace RelayStore.Filter
open Json

theorem addKey_built {c c' : TagConstraints} (built : c.Built) {key : String} {v : Value}
    (h : addKey c key v = .ok c') : c'.Built := by
  unfold addKey at h
  split at h
  next name spelled =>
    obtain ⟨values, -, inserted⟩ := bind_eq_ok.mp h
    exact built.insert (mapError_eq_ok.mp inserted)
  · exact Except.ok.inj h ▸ built

theorem addKeys_built {c c' : TagConstraints} (built : c.Built) {members : List (String × Value)}
    (h : addKeys c members = .ok c') : c'.Built := by
  induction members generalizing c with
  | nil => exact Except.ok.inj h ▸ built
  | cons member rest ih =>
    obtain ⟨more, added, h⟩ := bind_eq_ok.mp h
    exact ih (addKey_built built added) h

theorem Draft.finish_built {d : Draft} {f : Filter} (h : d.finish = .ok f) : f.tags.Built := by
  obtain ⟨tags, added, h⟩ := bind_eq_ok.mp h
  obtain rfl := pure_eq_ok.mp h
  exact addKeys_built .empty added

theorem ofNode_built {v : Node} {f : Filter} (h : ofNode v = .ok f) : f.tags.Built := by
  unfold ofNode at h
  split at h
  next members stop =>
    obtain ⟨d, -, h⟩ := bind_eq_ok.mp h
    exact d.finish_built (mapError_eq_ok.mp h)
  next other =>
    cases found : v.found <;> simp [Node.mismatch, found] at h

/-- Whatever text a filter is read from, only what insertions allow is in its tag constraints. -/
theorem ofJson_built {text : String} {f : Filter} (h : ofJson text = .ok f) : f.tags.Built := by
  obtain ⟨g, read, h⟩ := bind_eq_ok.mp h
  split at h
  · exact pure_eq_ok.mp h ▸ ofNode_built read
  · contradiction

end RelayStore.Filter
