/-!
# Named steps of the utility scales

Which values have a name of their own, by property. Each table pairs a value in its normal spelling
with what the name adds to a utility class, or with the whole class where no stem comes before it.

Other named colours come in families, each in eleven shades from light to dark. A hexadecimal colour that
several families share has the name in the first of them.
-/

namespace Retouch.Style

/-! ### The colour palette -/

/-- The shades of every family, light to dark. -/
def shades : List String := ["50", "100", "200", "300", "400", "500", "600", "700", "800", "900", "950"]

/-- The families with their colours, light to dark. -/
def palette : List (String × List String) := [
  ("slate", ["#f8fafc", "#f1f5f9", "#e2e8f0", "#cbd5e1", "#94a3b8", "#64748b",
    "#475569", "#334155", "#1e293b", "#0f172a", "#020617"]),
  ("gray", ["#f9fafb", "#f3f4f6", "#e5e7eb", "#d1d5db", "#9ca3af", "#6b7280",
    "#4b5563", "#374151", "#1f2937", "#111827", "#030712"]),
  ("zinc", ["#fafafa", "#f4f4f5", "#e4e4e7", "#d4d4d8", "#a1a1aa", "#71717a",
    "#52525b", "#3f3f46", "#27272a", "#18181b", "#09090b"]),
  ("neutral", ["#fafafa", "#f5f5f5", "#e5e5e5", "#d4d4d4", "#a3a3a3", "#737373",
    "#525252", "#404040", "#262626", "#171717", "#0a0a0a"]),
  ("stone", ["#fafaf9", "#f5f5f4", "#e7e5e4", "#d6d3d1", "#a8a29e", "#78716c",
    "#57534e", "#44403c", "#292524", "#1c1917", "#0c0a09"]),
  ("red", ["#fef2f2", "#fee2e2", "#fecaca", "#fca5a5", "#f87171", "#ef4444",
    "#dc2626", "#b91c1c", "#991b1b", "#7f1d1d", "#450a0a"]),
  ("orange", ["#fff7ed", "#ffedd5", "#fed7aa", "#fdba74", "#fb923c", "#f97316",
    "#ea580c", "#c2410c", "#9a3412", "#7c2d12", "#431407"]),
  ("amber", ["#fffbeb", "#fef3c7", "#fde68a", "#fcd34d", "#fbbf24", "#f59e0b",
    "#d97706", "#b45309", "#92400e", "#78350f", "#451a03"]),
  ("yellow", ["#fefce8", "#fef9c3", "#fef08a", "#fde047", "#facc15", "#eab308",
    "#ca8a04", "#a16207", "#854d0e", "#713f12", "#422006"]),
  ("lime", ["#f7fee7", "#ecfccb", "#d9f99d", "#bef264", "#a3e635", "#84cc16",
    "#65a30d", "#4d7c0f", "#3f6212", "#365314", "#1a2e05"]),
  ("green", ["#f0fdf4", "#dcfce7", "#bbf7d0", "#86efac", "#4ade80", "#22c55e",
    "#16a34a", "#15803d", "#166534", "#14532d", "#052e16"]),
  ("emerald", ["#ecfdf5", "#d1fae5", "#a7f3d0", "#6ee7b7", "#34d399", "#10b981",
    "#059669", "#047857", "#065f46", "#064e3b", "#022c22"]),
  ("teal", ["#f0fdfa", "#ccfbf1", "#99f6e4", "#5eead4", "#2dd4bf", "#14b8a6",
    "#0d9488", "#0f766e", "#115e59", "#134e4a", "#042f2e"]),
  ("cyan", ["#ecfeff", "#cffafe", "#a5f3fc", "#67e8f9", "#22d3ee", "#06b6d4",
    "#0891b2", "#0e7490", "#155e75", "#164e63", "#083344"]),
  ("sky", ["#f0f9ff", "#e0f2fe", "#bae6fd", "#7dd3fc", "#38bdf8", "#0ea5e9",
    "#0284c7", "#0369a1", "#075985", "#0c4a6e", "#082f49"]),
  ("blue", ["#eff6ff", "#dbeafe", "#bfdbfe", "#93c5fd", "#60a5fa", "#3b82f6",
    "#2563eb", "#1d4ed8", "#1e40af", "#1e3a8a", "#172554"]),
  ("indigo", ["#eef2ff", "#e0e7ff", "#c7d2fe", "#a5b4fc", "#818cf8", "#6366f1",
    "#4f46e5", "#4338ca", "#3730a3", "#312e81", "#1e1b4b"]),
  ("violet", ["#f5f3ff", "#ede9fe", "#ddd6fe", "#c4b5fd", "#a78bfa", "#8b5cf6",
    "#7c3aed", "#6d28d9", "#5b21b6", "#4c1d95", "#2e1065"]),
  ("purple", ["#faf5ff", "#f3e8ff", "#e9d5ff", "#d8b4fe", "#c084fc", "#a855f7",
    "#9333ea", "#7e22ce", "#6b21a8", "#581c87", "#3b0764"]),
  ("fuchsia", ["#fdf4ff", "#fae8ff", "#f5d0fe", "#f0abfc", "#e879f9", "#d946ef",
    "#c026d3", "#a21caf", "#86198f", "#701a75", "#4a044e"]),
  ("pink", ["#fdf2f8", "#fce7f3", "#fbcfe8", "#f9a8d4", "#f472b6", "#ec4899",
    "#db2777", "#be185d", "#9d174d", "#831843", "#500724"]),
  ("rose", ["#fff1f2", "#ffe4e6", "#fecdd3", "#fda4af", "#fb7185", "#f43f5e",
    "#e11d48", "#be123c", "#9f1239", "#881337", "#4c0519"])]

/-- The names of the families. -/
def families : List String := palette.map (·.1)

/-- The palette as pairs of a hexadecimal colour and its name, family by family. -/
def namedColors : List (String × String) :=
  palette.flatMap fun (family, colors) =>
    colors.zip (shades.map fun shade => family ++ "-" ++ shade)

/-- The name of a hexadecimal colour. -/
def colorName? (hex : String) : Option String := namedColors.lookup hex

/-! ### Named steps -/

/-- Colours named by a word. -/
def colorKeywords : List (String × String) := [
  ("transparent", "transparent"), ("currentcolor", "current"), ("inherit", "inherit"),
  ("#000000", "black"), ("#ffffff", "white"), ("black", "black"), ("white", "white")]

/-- Font sizes. -/
def fontSizes : List (String × String) := [
  ("0.75rem", "xs"), ("12px", "xs"), ("0.875rem", "sm"), ("14px", "sm"), ("1rem", "base"),
  ("16px", "base"), ("1.125rem", "lg"), ("18px", "lg"), ("1.25rem", "xl"), ("20px", "xl"),
  ("1.5rem", "2xl"), ("24px", "2xl"), ("1.875rem", "3xl"), ("30px", "3xl"), ("2.25rem", "4xl"),
  ("36px", "4xl"), ("3rem", "5xl"), ("48px", "5xl"), ("3.75rem", "6xl"), ("60px", "6xl"),
  ("4.5rem", "7xl"), ("72px", "7xl"), ("6rem", "8xl"), ("96px", "8xl"), ("8rem", "9xl"),
  ("128px", "9xl")]

/-- Font weights. -/
def fontWeights : List (String × String) := [
  ("100", "thin"), ("200", "extralight"), ("300", "light"), ("400", "normal"),
  ("normal", "normal"), ("500", "medium"), ("600", "semibold"), ("700", "bold"),
  ("bold", "bold"), ("800", "extrabold"), ("900", "black")]

/-- Steps of padding, margin, gap and size. -/
def spacings : List (String × String) := [
  ("0", "0"), ("0px", "0"), ("1px", "px"), ("0.125rem", "0.5"), ("2px", "0.5"),
  ("0.25rem", "1"), ("4px", "1"), ("0.375rem", "1.5"), ("6px", "1.5"), ("0.5rem", "2"),
  ("8px", "2"), ("0.625rem", "2.5"), ("10px", "2.5"), ("0.75rem", "3"), ("12px", "3"),
  ("0.875rem", "3.5"), ("14px", "3.5"), ("1rem", "4"), ("16px", "4"), ("1.25rem", "5"),
  ("20px", "5"), ("1.5rem", "6"), ("24px", "6"), ("1.75rem", "7"), ("28px", "7"),
  ("2rem", "8"), ("32px", "8"), ("2.25rem", "9"), ("36px", "9"), ("2.5rem", "10"),
  ("40px", "10"), ("2.75rem", "11"), ("44px", "11"), ("3rem", "12"), ("48px", "12"),
  ("3.5rem", "14"), ("56px", "14"), ("4rem", "16"), ("64px", "16"), ("5rem", "20"),
  ("80px", "20"), ("6rem", "24"), ("96px", "24")]

/-- Border widths, with the hyphen where one is needed. -/
def borderWidths : List (String × String) := [
  ("0", "-0"), ("0px", "-0"), ("1px", ""), ("2px", "-2"), ("4px", "-4"), ("8px", "-8")]

/-- Corner radii, with the hyphen where one is needed. -/
def radii : List (String × String) := [
  ("0", "-none"), ("0px", "-none"), ("0.125rem", "-sm"), ("2px", "-sm"), ("0.25rem", ""),
  ("4px", ""), ("0.375rem", "-md"), ("6px", "-md"), ("0.5rem", "-lg"), ("8px", "-lg"),
  ("0.75rem", "-xl"), ("12px", "-xl"), ("1rem", "-2xl"), ("16px", "-2xl"), ("1.5rem", "-3xl"),
  ("24px", "-3xl"), ("9999px", "-full"), ("50%", "-full")]

/-- Border styles. -/
def borderStyles : List (String × String) := [
  ("solid", "border-solid"), ("dashed", "border-dashed"), ("dotted", "border-dotted"),
  ("double", "border-double"), ("hidden", "border-hidden"), ("none", "border-none")]

/-- Text alignments. -/
def textAlignments : List (String × String) := [
  ("left", "text-left"), ("center", "text-center"), ("right", "text-right"),
  ("justify", "text-justify"), ("start", "text-start"), ("end", "text-end")]

/-- Kinds of display. -/
def displays : List (String × String) := [
  ("block", "block"), ("inline-block", "inline-block"), ("inline", "inline"), ("flex", "flex"),
  ("inline-flex", "inline-flex"), ("grid", "grid"), ("inline-grid", "inline-grid"),
  ("contents", "contents"), ("flow-root", "flow-root"), ("table", "table"), ("none", "hidden")]

/-- Text transformations. -/
def textTransforms : List (String × String) := [
  ("uppercase", "uppercase"), ("lowercase", "lowercase"), ("capitalize", "capitalize"),
  ("none", "normal-case")]

/-- Text decorations. -/
def textDecorations : List (String × String) := [
  ("underline", "underline"), ("overline", "overline"), ("line-through", "line-through"),
  ("none", "no-underline")]

/-- Line heights. -/
def lineHeights : List (String × String) := [
  ("1", "none"), ("1.25", "tight"), ("1.375", "snug"), ("1.5", "normal"), ("normal", "normal"),
  ("1.625", "relaxed"), ("2", "loose")]

/-- Letter spacings. -/
def letterSpacings : List (String × String) := [
  ("-0.05em", "tighter"), ("-0.025em", "tight"), ("0", "normal"), ("0em", "normal"),
  ("0px", "normal"), ("normal", "normal"), ("0.025em", "wide"), ("0.05em", "wider"),
  ("0.1em", "widest")]

/-- Sizes named by a word. -/
def sizeKeywords : List (String × String) := [
  ("auto", "auto"), ("100%", "full"), ("100vw", "screen"), ("100vh", "screen"),
  ("min-content", "min"), ("max-content", "max"), ("fit-content", "fit")]

end Retouch.Style
