namespace Codec

variable {σ τ ι ω : Type}

/-- The final state and the results of a row of calls. -/
def runCalls (step : σ → ι → σ × ω) (s : σ) : List ι → σ × List ω
  | [] => (s, [])
  | call :: calls =>
    let first := step s call
    let rest := runCalls step first.1 calls
    (rest.1, first.2 :: rest.2)

/-- Two machines whose related states answer alike and stay related answer alike on every run. -/
theorem runCalls_simulates {step : σ → ι → σ × ω} {spec : τ → ι → τ × ω} {related : σ → τ → Prop}
    (simulates : ∀ {s t}, related s t → ∀ call,
      related (step s call).1 (spec t call).1 ∧ (step s call).2 = (spec t call).2)
    {s : σ} {t : τ} (h : related s t) (calls : List ι) :
    related (runCalls step s calls).1 (runCalls spec t calls).1 ∧
      (runCalls step s calls).2 = (runCalls spec t calls).2 := by
  induction calls generalizing s t with
  | nil => exact ⟨h, rfl⟩
  | cons call calls ih =>
    obtain ⟨hnext, hresult⟩ := simulates h call
    obtain ⟨hfinal, hresults⟩ := ih hnext
    exact ⟨hfinal, by simp only [runCalls, hresult, hresults]⟩

end Codec
