/-!
# Options of the linter

The names that the linter accepts besides its own, as arguments for it.
-/

namespace TemplateLint.Linter

/-- Names of custom blocks and custom tags. -/
structure Options where
  customBlocks : List String := []
  customTags : List String := []
  deriving DecidableEq, Repr

/-- Every name behind its own option; blocks come before tags. -/
def Options.toArguments (options : Options) : List String :=
  options.customBlocks.flatMap (fun name => ["--custom-block", name]) ++
    options.customTags.flatMap (fun name => ["--custom-tag", name])

@[simp]
theorem Options.toArguments_length (options : Options) :
    options.toArguments.length =
      2 * options.customBlocks.length + 2 * options.customTags.length := by
  simp [toArguments, List.length_flatMap, List.map_const', Nat.mul_comm]

end TemplateLint.Linter
