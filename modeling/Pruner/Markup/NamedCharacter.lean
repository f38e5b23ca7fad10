/-!
# Named characters

The names by which a reference can stand for one or two characters. Old names may do without the
closing semicolon.
-/

namespace Pruner.Markup

/-- A name and the code points it stands for; `bare` tells whether it may stand without a
semicolon. -/
structure NamedCharacter where
  name : String
  codes : List Nat
  bare : Bool
  deriving DecidableEq, Repr

/-! ### The names by their first letter -/

def capitalANames : List NamedCharacter := [
  ⟨"AElig", [0xc6], true⟩, ⟨"AMP", [0x26], true⟩, ⟨"Aacute", [0xc1], true⟩,
  ⟨"Abreve", [0x102], false⟩, ⟨"Acirc", [0xc2], true⟩, ⟨"Acy", [0x410], false⟩,
  ⟨"Afr", [0x1d504], false⟩, ⟨"Agrave", [0xc0], true⟩, ⟨"Alpha", [0x391], false⟩,
  ⟨"Amacr", [0x100], false⟩, ⟨"And", [0x2a53], false⟩, ⟨"Aogon", [0x104], false⟩,
  ⟨"Aopf", [0x1d538], false⟩, ⟨"ApplyFunction", [0x2061], false⟩, ⟨"Aring", [0xc5], true⟩,
  ⟨"Ascr", [0x1d49c], false⟩, ⟨"Assign", [0x2254], false⟩, ⟨"Atilde", [0xc3], true⟩,
  ⟨"Auml", [0xc4], true⟩]

def capitalBNames : List NamedCharacter := [
  ⟨"Backslash", [0x2216], false⟩, ⟨"Barv", [0x2ae7], false⟩, ⟨"Barwed", [0x2306], false⟩,
  ⟨"Bcy", [0x411], false⟩, ⟨"Because", [0x2235], false⟩, ⟨"Bernoullis", [0x212c], false⟩,
  ⟨"Beta", [0x392], false⟩, ⟨"Bfr", [0x1d505], false⟩, ⟨"Bopf", [0x1d539], false⟩,
  ⟨"Breve", [0x2d8], false⟩, ⟨"Bscr", [0x212c], false⟩, ⟨"Bumpeq", [0x224e], false⟩]

def capitalCNames : List NamedCharacter := [
  ⟨"CHcy", [0x427], false⟩, ⟨"COPY", [0xa9], true⟩, ⟨"Cacute", [0x106], false⟩,
  ⟨"Cap", [0x22d2], false⟩, ⟨"CapitalDifferentialD", [0x2145], false⟩,
  ⟨"Cayleys", [0x212d], false⟩, ⟨"Ccaron", [0x10c], false⟩, ⟨"Ccedil", [0xc7], true⟩,
  ⟨"Ccirc", [0x108], false⟩, ⟨"Cconint", [0x2230], false⟩, ⟨"Cdot", [0x10a], false⟩,
  ⟨"Cedilla", [0xb8], false⟩, ⟨"CenterDot", [0xb7], false⟩, ⟨"Cfr", [0x212d], false⟩,
  ⟨"Chi", [0x3a7], false⟩, ⟨"CircleDot", [0x2299], false⟩, ⟨"CircleMinus", [0x2296], false⟩,
  ⟨"CirclePlus", [0x2295], false⟩, ⟨"CircleTimes", [0x2297], false⟩,
  ⟨"ClockwiseContourIntegral", [0x2232], false⟩, ⟨"CloseCurlyDoubleQuote", [0x201d], false⟩,
  ⟨"CloseCurlyQuote", [0x2019], false⟩, ⟨"Colon", [0x2237], false⟩, ⟨"Colone", [0x2a74], false⟩,
  ⟨"Congruent", [0x2261], false⟩, ⟨"Conint", [0x222f], false⟩,
  ⟨"ContourIntegral", [0x222e], false⟩, ⟨"Copf", [0x2102], false⟩, ⟨"Coproduct", [0x2210], false⟩,
  ⟨"CounterClockwiseContourIntegral", [0x2233], false⟩, ⟨"Cross", [0x2a2f], false⟩,
  ⟨"Cscr", [0x1d49e], false⟩, ⟨"Cup", [0x22d3], false⟩, ⟨"CupCap", [0x224d], false⟩]

def capitalDNames : List NamedCharacter := [
  ⟨"DD", [0x2145], false⟩, ⟨"DDotrahd", [0x2911], false⟩, ⟨"DJcy", [0x402], false⟩,
  ⟨"DScy", [0x405], false⟩, ⟨"DZcy", [0x40f], false⟩, ⟨"Dagger", [0x2021], false⟩,
  ⟨"Darr", [0x21a1], false⟩, ⟨"Dashv", [0x2ae4], false⟩, ⟨"Dcaron", [0x10e], false⟩,
  ⟨"Dcy", [0x414], false⟩, ⟨"Del", [0x2207], false⟩, ⟨"Delta", [0x394], false⟩,
  ⟨"Dfr", [0x1d507], false⟩, ⟨"DiacriticalAcute", [0xb4], false⟩,
  ⟨"DiacriticalDot", [0x2d9], false⟩, ⟨"DiacriticalDoubleAcute", [0x2dd], false⟩,
  ⟨"DiacriticalGrave", [0x60], false⟩, ⟨"DiacriticalTilde", [0x2dc], false⟩,
  ⟨"Diamond", [0x22c4], false⟩, ⟨"DifferentialD", [0x2146], false⟩, ⟨"Dopf", [0x1d53b], false⟩,
  ⟨"Dot", [0xa8], false⟩, ⟨"DotDot", [0x20dc], false⟩, ⟨"DotEqual", [0x2250], false⟩,
  ⟨"DoubleContourIntegral", [0x222f], false⟩, ⟨"DoubleDot", [0xa8], false⟩,
  ⟨"DoubleDownArrow", [0x21d3], false⟩, ⟨"DoubleLeftArrow", [0x21d0], false⟩,
  ⟨"DoubleLeftRightArrow", [0x21d4], false⟩, ⟨"DoubleLeftTee", [0x2ae4], false⟩,
  ⟨"DoubleLongLeftArrow", [0x27f8], false⟩, ⟨"DoubleLongLeftRightArrow", [0x27fa], false⟩,
  ⟨"DoubleLongRightArrow", [0x27f9], false⟩, ⟨"DoubleRightArrow", [0x21d2], false⟩,
  ⟨"DoubleRightTee", [0x22a8], false⟩, ⟨"DoubleUpArrow", [0x21d1], false⟩,
  ⟨"DoubleUpDownArrow", [0x21d5], false⟩, ⟨"DoubleVerticalBar", [0x2225], false⟩,
  ⟨"DownArrow", [0x2193], false⟩, ⟨"DownArrowBar", [0x2913], false⟩,
  ⟨"DownArrowUpArrow", [0x21f5], false⟩, ⟨"DownBreve", [0x311], false⟩,
  ⟨"DownLeftRightVector", [0x2950], false⟩, ⟨"DownLeftTeeVector", [0x295e], false⟩,
  ⟨"DownLeftVector", [0x21bd], false⟩, ⟨"DownLeftVectorBar", [0x2956], false⟩,
  ⟨"DownRightTeeVector", [0x295f], false⟩, ⟨"DownRightVector", [0x21c1], false⟩,
  ⟨"DownRightVectorBar", [0x2957], false⟩, ⟨"DownTee", [0x22a4], false⟩,
  ⟨"DownTeeArrow", [0x21a7], false⟩, ⟨"Downarrow", [0x21d3], false⟩, ⟨"Dscr", [0x1d49f], false⟩,
  ⟨"Dstrok", [0x110], false⟩]

def capitalENames : List NamedCharacter := [
  ⟨"ENG", [0x14a], false⟩, ⟨"ETH", [0xd0], true⟩, ⟨"Eacute", [0xc9], true⟩,
  ⟨"Ecaron", [0x11a], false⟩, ⟨"Ecirc", [0xca], true⟩, ⟨"Ecy", [0x42d], false⟩,
  ⟨"Edot", [0x116], false⟩, ⟨"Efr", [0x1d508], false⟩, ⟨"Egrave", [0xc8], true⟩,
  ⟨"Element", [0x2208], false⟩, ⟨"Emacr", [0x112], false⟩, ⟨"EmptySmallSquare", [0x25fb], false⟩,
  ⟨"EmptyVerySmallSquare", [0x25ab], false⟩, ⟨"Eogon", [0x118], false⟩, ⟨"Eopf", [0x1d53c], false⟩,
  ⟨"Epsilon", [0x395], false⟩, ⟨"Equal", [0x2a75], false⟩, ⟨"EqualTilde", [0x2242], false⟩,
  ⟨"Equilibrium", [0x21cc], false⟩, ⟨"Escr", [0x2130], false⟩, ⟨"Esim", [0x2a73], false⟩,
  ⟨"Eta", [0x397], false⟩, ⟨"Euml", [0xcb], true⟩, ⟨"Exists", [0x2203], false⟩,
  ⟨"ExponentialE", [0x2147], false⟩]

def capitalFNames : List NamedCharacter := [
  ⟨"Fcy", [0x424], false⟩, ⟨"Ffr", [0x1d509], false⟩, ⟨"FilledSmallSquare", [0x25fc], false⟩,
  ⟨"FilledVerySmallSquare", [0x25aa], false⟩, ⟨"Fopf", [0x1d53d], false⟩,
  ⟨"ForAll", [0x2200], false⟩, ⟨"Fouriertrf", [0x2131], false⟩, ⟨"Fscr", [0x2131], false⟩]

def capitalGNames : List NamedCharacter := [
  ⟨"GJcy", [0x403], false⟩, ⟨"GT", [0x3e], true⟩, ⟨"Gamma", [0x393], false⟩,
  ⟨"Gammad", [0x3dc], false⟩, ⟨"Gbreve", [0x11e], false⟩, ⟨"Gcedil", [0x122], false⟩,
  ⟨"Gcirc", [0x11c], false⟩, ⟨"Gcy", [0x413], false⟩, ⟨"Gdot", [0x120], false⟩,
  ⟨"Gfr", [0x1d50a], false⟩, ⟨"Gg", [0x22d9], false⟩, ⟨"Gopf", [0x1d53e], false⟩,
  ⟨"GreaterEqual", [0x2265], false⟩, ⟨"GreaterEqualLess", [0x22db], false⟩,
  ⟨"GreaterFullEqual", [0x2267], false⟩, ⟨"GreaterGreater", [0x2aa2], false⟩,
  ⟨"GreaterLess", [0x2277], false⟩, ⟨"GreaterSlantEqual", [0x2a7e], false⟩,
  ⟨"GreaterTilde", [0x2273], false⟩, ⟨"Gscr", [0x1d4a2], false⟩, ⟨"Gt", [0x226b], false⟩]

def capitalHNames : List NamedCharacter := [
  ⟨"HARDcy", [0x42a], false⟩, ⟨"Hacek", [0x2c7], false⟩, ⟨"Hat", [0x5e], false⟩,
  ⟨"Hcirc", [0x124], false⟩, ⟨"Hfr", [0x210c], false⟩, ⟨"HilbertSpace", [0x210b], false⟩,
  ⟨"Hopf", [0x210d], false⟩, ⟨"HorizontalLine", [0x2500], false⟩, ⟨"Hscr", [0x210b], false⟩,
  ⟨"Hstrok", [0x126], false⟩, ⟨"HumpDownHump", [0x224e], false⟩, ⟨"HumpEqual", [0x224f], false⟩]

def capitalINames : List NamedCharacter := [
  ⟨"IEcy", [0x415], false⟩, ⟨"IJlig", [0x132], false⟩, ⟨"IOcy", [0x401], false⟩,
  ⟨"Iacute", [0xcd], true⟩, ⟨"Icirc", [0xce], true⟩, ⟨"Icy", [0x418], false⟩,
  ⟨"Idot", [0x130], false⟩, ⟨"Ifr", [0x2111], false⟩, ⟨"Igrave", [0xcc], true⟩,
  ⟨"Im", [0x2111], false⟩, ⟨"Imacr", [0x12a], false⟩, ⟨"ImaginaryI", [0x2148], false⟩,
  ⟨"Implies", [0x21d2], false⟩, ⟨"Int", [0x222c], false⟩, ⟨"Integral", [0x222b], false⟩,
  ⟨"Intersection", [0x22c2], false⟩, ⟨"InvisibleComma", [0x2063], false⟩,
  ⟨"InvisibleTimes", [0x2062], false⟩, ⟨"Iogon", [0x12e], false⟩, ⟨"Iopf", [0x1d540], false⟩,
  ⟨"Iota", [0x399], false⟩, ⟨"Iscr", [0x2110], false⟩, ⟨"Itilde", [0x128], false⟩,
  ⟨"Iukcy", [0x406], false⟩, ⟨"Iuml", [0xcf], true⟩]

def capitalJNames : List NamedCharacter := [
  ⟨"Jcirc", [0x134], false⟩, ⟨"Jcy", [0x419], false⟩, ⟨"Jfr", [0x1d50d], false⟩,
  ⟨"Jopf", [0x1d541], false⟩, ⟨"Jscr", [0x1d4a5], false⟩, ⟨"Jsercy", [0x408], false⟩,
  ⟨"Jukcy", [0x404], false⟩]

def capitalKNames : List NamedCharacter := [
  ⟨"KHcy", [0x425], false⟩, ⟨"KJcy", [0x40c], false⟩, ⟨"Kappa", [0x39a], false⟩,
  ⟨"Kcedil", [0x136], false⟩, ⟨"Kcy", [0x41a], false⟩, ⟨"Kfr", [0x1d50e], false⟩,
  ⟨"Kopf", [0x1d542], false⟩, ⟨"Kscr", [0x1d4a6], false⟩]

def capitalLNames : List NamedCharacter := [
  ⟨"LJcy", [0x409], false⟩, ⟨"LT", [0x3c], true⟩, ⟨"Lacute", [0x139], false⟩,
  ⟨"Lambda", [0x39b], false⟩, ⟨"Lang", [0x27ea], false⟩, ⟨"Laplacetrf", [0x2112], false⟩,
  ⟨"Larr", [0x219e], false⟩, ⟨"Lcaron", [0x13d], false⟩, ⟨"Lcedil", [0x13b], false⟩,
  ⟨"Lcy", [0x41b], false⟩, ⟨"LeftAngleBracket", [0x27e8], false⟩, ⟨"LeftArrow", [0x2190], false⟩,
  ⟨"LeftArrowBar", [0x21e4], false⟩, ⟨"LeftArrowRightArrow", [0x21c6], false⟩,
  ⟨"LeftCeiling", [0x2308], false⟩, ⟨"LeftDoubleBracket", [0x27e6], false⟩,
  ⟨"LeftDownTeeVector", [0x2961], false⟩, ⟨"LeftDownVector", [0x21c3], false⟩,
  ⟨"LeftDownVectorBar", [0x2959], false⟩, ⟨"LeftFloor", [0x230a], false⟩,
  ⟨"LeftRightArrow", [0x2194], false⟩, ⟨"LeftRightVector", [0x294e], false⟩,
  ⟨"LeftTee", [0x22a3], false⟩, ⟨"LeftTeeArrow", [0x21a4], false⟩,
  ⟨"LeftTeeVector", [0x295a], false⟩, ⟨"LeftTriangle", [0x22b2], false⟩,
  ⟨"LeftTriangleBar", [0x29cf], false⟩, ⟨"LeftTriangleEqual", [0x22b4], false⟩,
  ⟨"LeftUpDownVector", [0x2951], false⟩, ⟨"LeftUpTeeVector", [0x2960], false⟩,
  ⟨"LeftUpVector", [0x21bf], false⟩, ⟨"LeftUpVectorBar", [0x2958], false⟩,
  ⟨"LeftVector", [0x21bc], false⟩, ⟨"LeftVectorBar", [0x2952], false⟩,
  ⟨"Leftarrow", [0x21d0], false⟩, ⟨"Leftrightarrow", [0x21d4], false⟩,
  ⟨"LessEqualGreater", [0x22da], false⟩, ⟨"LessFullEqual", [0x2266], false⟩,
  ⟨"LessGreater", [0x2276], false⟩, ⟨"LessLess", [0x2aa1], false⟩,
  ⟨"LessSlantEqual", [0x2a7d], false⟩, ⟨"LessTilde", [0x2272], false⟩, ⟨"Lfr", [0x1d50f], false⟩,
  ⟨"Ll", [0x22d8], false⟩, ⟨"Lleftarrow", [0x21da], false⟩, ⟨"Lmidot", [0x13f], false⟩,
  ⟨"LongLeftArrow", [0x27f5], false⟩, ⟨"LongLeftRightArrow", [0x27f7], false⟩,
  ⟨"LongRightArrow", [0x27f6], false⟩, ⟨"Longleftarrow", [0x27f8], false⟩,
  ⟨"Longleftrightarrow", [0x27fa], false⟩, ⟨"Longrightarrow", [0x27f9], false⟩,
  ⟨"Lopf", [0x1d543], false⟩, ⟨"LowerLeftArrow", [0x2199], false⟩,
  ⟨"LowerRightArrow", [0x2198], false⟩, ⟨"Lscr", [0x2112], false⟩, ⟨"Lsh", [0x21b0], false⟩,
  ⟨"Lstrok", [0x141], false⟩, ⟨"Lt", [0x226a], false⟩]

def capitalMNames : List NamedCharacter := [
  ⟨"Map", [0x2905], false⟩, ⟨"Mcy", [0x41c], false⟩, ⟨"MediumSpace", [0x205f], false⟩,
  ⟨"Mellintrf", [0x2133], false⟩, ⟨"Mfr", [0x1d510], false⟩, ⟨"MinusPlus", [0x2213], false⟩,
  ⟨"Mopf", [0x1d544], false⟩, ⟨"Mscr", [0x2133], false⟩, ⟨"Mu", [0x39c], false⟩]

def capitalNNames : List NamedCharacter := [
  ⟨"NJcy", [0x40a], false⟩, ⟨"Nacute", [0x143], false⟩, ⟨"Ncaron", [0x147], false⟩,
  ⟨"Ncedil", [0x145], false⟩, ⟨"Ncy", [0x41d], false⟩, ⟨"NegativeMediumSpace", [0x200b], false⟩,
  ⟨"NegativeThickSpace", [0x200b], false⟩, ⟨"NegativeThinSpace", [0x200b], false⟩,
  ⟨"NegativeVeryThinSpace", [0x200b], false⟩, ⟨"NestedGreaterGreater", [0x226b], false⟩,
  ⟨"NestedLessLess", [0x226a], false⟩, ⟨"NewLine", [0xa], false⟩, ⟨"Nfr", [0x1d511], false⟩,
  ⟨"NoBreak", [0x2060], false⟩, ⟨"NonBreakingSpace", [0xa0], false⟩, ⟨"Nopf", [0x2115], false⟩,
  ⟨"Not", [0x2aec], false⟩, ⟨"NotCongruent", [0x2262], false⟩, ⟨"NotCupCap", [0x226d], false⟩,
  ⟨"NotDoubleVerticalBar", [0x2226], false⟩, ⟨"NotElement", [0x2209], false⟩,
  ⟨"NotEqual", [0x2260], false⟩, ⟨"NotEqualTilde", [0x2242, 0x338], false⟩,
  ⟨"NotExists", [0x2204], false⟩, ⟨"NotGreater", [0x226f], false⟩,
  ⟨"NotGreaterEqual", [0x2271], false⟩, ⟨"NotGreaterFullEqual", [0x2267, 0x338], false⟩,
  ⟨"NotGreaterGreater", [0x226b, 0x338], false⟩, ⟨"NotGreaterLess", [0x2279], false⟩,
  ⟨"NotGreaterSlantEqual", [0x2a7e, 0x338], false⟩, ⟨"NotGreaterTilde", [0x2275], false⟩,
  ⟨"NotHumpDownHump", [0x224e, 0x338], false⟩, ⟨"NotHumpEqual", [0x224f, 0x338], false⟩,
  ⟨"NotLeftTriangle", [0x22ea], false⟩, ⟨"NotLeftTriangleBar", [0x29cf, 0x338], false⟩,
  ⟨"NotLeftTriangleEqual", [0x22ec], false⟩, ⟨"NotLess", [0x226e], false⟩,
  ⟨"NotLessEqual", [0x2270], false⟩, ⟨"NotLessGreater", [0x2278], false⟩,
  ⟨"NotLessLess", [0x226a, 0x338], false⟩, ⟨"NotLessSlantEqual", [0x2a7d, 0x338], false⟩,
  ⟨"NotLessTilde", [0x2274], false⟩, ⟨"NotNestedGreaterGreater", [0x2aa2, 0x338], false⟩,
  ⟨"NotNestedLessLess", [0x2aa1, 0x338], false⟩, ⟨"NotPrecedes", [0x2280], false⟩,
  ⟨"NotPrecedesEqual", [0x2aaf, 0x338], false⟩, ⟨"NotPrecedesSlantEqual", [0x22e0], false⟩,
  ⟨"NotReverseElement", [0x220c], false⟩, ⟨"NotRightTriangle", [0x22eb], false⟩,
  ⟨"NotRightTriangleBar", [0x29d0, 0x338], false⟩, ⟨"NotRightTriangleEqual", [0x22ed], false⟩,
  ⟨"NotSquareSubset", [0x228f, 0x338], false⟩, ⟨"NotSquareSubsetEqual", [0x22e2], false⟩,
  ⟨"NotSquareSuperset", [0x2290, 0x338], false⟩, ⟨"NotSquareSupersetEqual", [0x22e3], false⟩,
  ⟨"NotSubset", [0x2282, 0x20d2], false⟩, ⟨"NotSubsetEqual", [0x2288], false⟩,
  ⟨"NotSucceeds", [0x2281], false⟩, ⟨"NotSucceedsEqual", [0x2ab0, 0x338], false⟩,
  ⟨"NotSucceedsSlantEqual", [0x22e1], false⟩, ⟨"NotSucceedsTilde", [0x227f, 0x338], false⟩,
  ⟨"NotSuperset", [0x2283, 0x20d2], false⟩, ⟨"NotSupersetEqual", [0x2289], false⟩,
  ⟨"NotTilde", [0x2241], false⟩, ⟨"NotTildeEqual", [0x2244], false⟩,
  ⟨"NotTildeFullEqual", [0x2247], false⟩, ⟨"NotTildeTilde", [0x2249], false⟩,
  ⟨"NotVerticalBar", [0x2224], false⟩, ⟨"Nscr", [0x1d4a9], false⟩, ⟨"Ntilde", [0xd1], true⟩,
  ⟨"Nu", [0x39d], false⟩]

def capitalONames : List NamedCharacter := [
  ⟨"OElig", [0x152], false⟩, ⟨"Oacute", [0xd3], true⟩, ⟨"Ocirc", [0xd4], true⟩,
  ⟨"Ocy", [0x41e], false⟩, ⟨"Odblac", [0x150], false⟩, ⟨"Ofr", [0x1d512], false⟩,
  ⟨"Ograve", [0xd2], true⟩, ⟨"Omacr", [0x14c], false⟩, ⟨"Omega", [0x3a9], false⟩,
  ⟨"Omicron", [0x39f], false⟩, ⟨"Oopf", [0x1d546], false⟩,
  ⟨"OpenCurlyDoubleQuote", [0x201c], false⟩, ⟨"OpenCurlyQuote", [0x2018], false⟩,
  ⟨"Or", [0x2a54], false⟩, ⟨"Oscr", [0x1d4aa], false⟩, ⟨"Oslash", [0xd8], true⟩,
  ⟨"Otilde", [0xd5], true⟩, ⟨"Otimes", [0x2a37], false⟩, ⟨"Ouml", [0xd6], true⟩,
  ⟨"OverBar", [0x203e], false⟩, ⟨"OverBrace", [0x23de], false⟩, ⟨"OverBracket", [0x23b4], false⟩,
  ⟨"OverParenthesis", [0x23dc], false⟩]

def capitalPNames : List NamedCharacter := [
  ⟨"PartialD", [0x2202], false⟩, ⟨"Pcy", [0x41f], false⟩, ⟨"Pfr", [0x1d513], false⟩,
  ⟨"Phi", [0x3a6], false⟩, ⟨"Pi", [0x3a0], false⟩, ⟨"PlusMinus", [0xb1], false⟩,
  ⟨"Poincareplane", [0x210c], false⟩, ⟨"Popf", [0x2119], false⟩, ⟨"Pr", [0x2abb], false⟩,
  ⟨"Precedes", [0x227a], false⟩, ⟨"PrecedesEqual", [0x2aaf], false⟩,
  ⟨"PrecedesSlantEqual", [0x227c], false⟩, ⟨"PrecedesTilde", [0x227e], false⟩,
  ⟨"Prime", [0x2033], false⟩, ⟨"Product", [0x220f], false⟩, ⟨"Proportion", [0x2237], false⟩,
  ⟨"Proportional", [0x221d], false⟩, ⟨"Pscr", [0x1d4ab], false⟩, ⟨"Psi", [0x3a8], false⟩]

def capitalQNames : List NamedCharacter := [
  ⟨"QUOT", [0x22], true⟩, ⟨"Qfr", [0x1d514], false⟩, ⟨"Qopf", [0x211a], false⟩,
  ⟨"Qscr", [0x1d4ac], false⟩]

def capitalRNames : List NamedCharacter := [
  ⟨"RBarr", [0x2910], false⟩, ⟨"REG", [0xae], true⟩, ⟨"Racute", [0x154], false⟩,
  ⟨"Rang", [0x27eb], false⟩, ⟨"Rarr", [0x21a0], false⟩, ⟨"Rarrtl", [0x2916], false⟩,
  ⟨"Rcaron", [0x158], false⟩, ⟨"Rcedil", [0x156], false⟩, ⟨"Rcy", [0x420], false⟩,
  ⟨"Re", [0x211c], false⟩, ⟨"ReverseElement", [0x220b], false⟩,
  ⟨"ReverseEquilibrium", [0x21cb], false⟩, ⟨"ReverseUpEquilibrium", [0x296f], false⟩,
  ⟨"Rfr", [0x211c], false⟩, ⟨"Rho", [0x3a1], false⟩, ⟨"RightAngleBracket", [0x27e9], false⟩,
  ⟨"RightArrow", [0x2192], false⟩, ⟨"RightArrowBar", [0x21e5], false⟩,
  ⟨"RightArrowLeftArrow", [0x21c4], false⟩, ⟨"RightCeiling", [0x2309], false⟩,
  ⟨"RightDoubleBracket", [0x27e7], false⟩, ⟨"RightDownTeeVector", [0x295d], false⟩,
  ⟨"RightDownVector", [0x21c2], false⟩, ⟨"RightDownVectorBar", [0x2955], false⟩,
  ⟨"RightFloor", [0x230b], false⟩, ⟨"RightTee", [0x22a2], false⟩,
  ⟨"RightTeeArrow", [0x21a6], false⟩, ⟨"RightTeeVector", [0x295b], false⟩,
  ⟨"RightTriangle", [0x22b3], false⟩, ⟨"RightTriangleBar", [0x29d0], false⟩,
  ⟨"RightTriangleEqual", [0x22b5], false⟩, ⟨"RightUpDownVector", [0x294f], false⟩,
  ⟨"RightUpTeeVector", [0x295c], false⟩, ⟨"RightUpVector", [0x21be], false⟩,
  ⟨"RightUpVectorBar", [0x2954], false⟩, ⟨"RightVector", [0x21c0], false⟩,
  ⟨"RightVectorBar", [0x2953], false⟩, ⟨"Rightarrow", [0x21d2], false⟩, ⟨"Ropf", [0x211d], false⟩,
  ⟨"RoundImplies", [0x2970], false⟩, ⟨"Rrightarrow", [0x21db], false⟩, ⟨"Rscr", [0x211b], false⟩,
  ⟨"Rsh", [0x21b1], false⟩, ⟨"RuleDelayed", [0x29f4], false⟩]

def capitalSNames : List NamedCharacter := [
  ⟨"SHCHcy", [0x429], false⟩, ⟨"SHcy", [0x428], false⟩, ⟨"SOFTcy", [0x42c], false⟩,
  ⟨"Sacute", [0x15a], false⟩, ⟨"Sc", [0x2abc], false⟩, ⟨"Scaron", [0x160], false⟩,
  ⟨"Scedil", [0x15e], false⟩, ⟨"Scirc", [0x15c], false⟩, ⟨"Scy", [0x421], false⟩,
  ⟨"Sfr", [0x1d516], false⟩, ⟨"ShortDownArrow", [0x2193], false⟩,
  ⟨"ShortLeftArrow", [0x2190], false⟩, ⟨"ShortRightArrow", [0x2192], false⟩,
  ⟨"ShortUpArrow", [0x2191], false⟩, ⟨"Sigma", [0x3a3], false⟩, ⟨"SmallCircle", [0x2218], false⟩,
  ⟨"Sopf", [0x1d54a], false⟩, ⟨"Sqrt", [0x221a], false⟩, ⟨"Square", [0x25a1], false⟩,
  ⟨"SquareIntersection", [0x2293], false⟩, ⟨"SquareSubset", [0x228f], false⟩,
  ⟨"SquareSubsetEqual", [0x2291], false⟩, ⟨"SquareSuperset", [0x2290], false⟩,
  ⟨"SquareSupersetEqual", [0x2292], false⟩, ⟨"SquareUnion", [0x2294], false⟩,
  ⟨"Sscr", [0x1d4ae], false⟩, ⟨"Star", [0x22c6], false⟩, ⟨"Sub", [0x22d0], false⟩,
  ⟨"Subset", [0x22d0], false⟩, ⟨"SubsetEqual", [0x2286], false⟩, ⟨"Succeeds", [0x227b], false⟩,
  ⟨"SucceedsEqual", [0x2ab0], false⟩, ⟨"SucceedsSlantEqual", [0x227d], false⟩,
  ⟨"SucceedsTilde", [0x227f], false⟩, ⟨"SuchThat", [0x220b], false⟩, ⟨"Sum", [0x2211], false⟩,
  ⟨"Sup", [0x22d1], false⟩, ⟨"Superset", [0x2283], false⟩, ⟨"SupersetEqual", [0x2287], false⟩,
  ⟨"Supset", [0x22d1], false⟩]

def capitalTNames : List NamedCharacter := [
  ⟨"THORN", [0xde], true⟩, ⟨"TRADE", [0x2122], false⟩, ⟨"TSHcy", [0x40b], false⟩,
  ⟨"TScy", [0x426], false⟩, ⟨"Tab", [0x9], false⟩, ⟨"Tau", [0x3a4], false⟩,
  ⟨"Tcaron", [0x164], false⟩, ⟨"Tcedil", [0x162], false⟩, ⟨"Tcy", [0x422], false⟩,
  ⟨"Tfr", [0x1d517], false⟩, ⟨"Therefore", [0x2234], false⟩, ⟨"Theta", [0x398], false⟩,
  ⟨"ThickSpace", [0x205f, 0x200a], false⟩, ⟨"ThinSpace", [0x2009], false⟩,
  ⟨"Tilde", [0x223c], false⟩, ⟨"TildeEqual", [0x2243], false⟩, ⟨"TildeFullEqual", [0x2245], false⟩,
  ⟨"TildeTilde", [0x2248], false⟩, ⟨"Topf", [0x1d54b], false⟩, ⟨"TripleDot", [0x20db], false⟩,
  ⟨"Tscr", [0x1d4af], false⟩, ⟨"Tstrok", [0x166], false⟩]

def capitalUNames : List NamedCharacter := [
  ⟨"Uacute", [0xda], true⟩, ⟨"Uarr", [0x219f], false⟩, ⟨"Uarrocir", [0x2949], false⟩,
  ⟨"Ubrcy", [0x40e], false⟩, ⟨"Ubreve", [0x16c], false⟩, ⟨"Ucirc", [0xdb], true⟩,
  ⟨"Ucy", [0x423], false⟩, ⟨"Udblac", [0x170], false⟩, ⟨"Ufr", [0x1d518], false⟩,
  ⟨"Ugrave", [0xd9], true⟩, ⟨"Umacr", [0x16a], false⟩, ⟨"UnderBar", [0x5f], false⟩,
  ⟨"UnderBrace", [0x23df], false⟩, ⟨"UnderBracket", [0x23b5], false⟩,
  ⟨"UnderParenthesis", [0x23dd], false⟩, ⟨"Union", [0x22c3], false⟩,
  ⟨"UnionPlus", [0x228e], false⟩, ⟨"Uogon", [0x172], false⟩, ⟨"Uopf", [0x1d54c], false⟩,
  ⟨"UpArrow", [0x2191], false⟩, ⟨"UpArrowBar", [0x2912], false⟩,
  ⟨"UpArrowDownArrow", [0x21c5], false⟩, ⟨"UpDownArrow", [0x2195], false⟩,
  ⟨"UpEquilibrium", [0x296e], false⟩, ⟨"UpTee", [0x22a5], false⟩, ⟨"UpTeeArrow", [0x21a5], false⟩,
  ⟨"Uparrow", [0x21d1], false⟩, ⟨"Updownarrow", [0x21d5], false⟩,
  ⟨"UpperLeftArrow", [0x2196], false⟩, ⟨"UpperRightArrow", [0x2197], false⟩,
  ⟨"Upsi", [0x3d2], false⟩, ⟨"Upsilon", [0x3a5], false⟩, ⟨"Uring", [0x16e], false⟩,
  ⟨"Uscr", [0x1d4b0], false⟩, ⟨"Utilde", [0x168], false⟩, ⟨"Uuml", [0xdc], true⟩]

def capitalVNames : List NamedCharacter := [
  ⟨"VDash", [0x22ab], false⟩, ⟨"Vbar", [0x2aeb], false⟩, ⟨"Vcy", [0x412], false⟩,
  ⟨"Vdash", [0x22a9], false⟩, ⟨"Vdashl", [0x2ae6], false⟩, ⟨"Vee", [0x22c1], false⟩,
  ⟨"Verbar", [0x2016], false⟩, ⟨"Vert", [0x2016], false⟩, ⟨"VerticalBar", [0x2223], false⟩,
  ⟨"VerticalLine", [0x7c], false⟩, ⟨"VerticalSeparator", [0x2758], false⟩,
  ⟨"VerticalTilde", [0x2240], false⟩, ⟨"VeryThinSpace", [0x200a], false⟩,
  ⟨"Vfr", [0x1d519], false⟩, ⟨"Vopf", [0x1d54d], false⟩, ⟨"Vscr", [0x1d4b1], false⟩,
  ⟨"Vvdash", [0x22aa], false⟩]

def capitalWNames : List NamedCharacter := [
  ⟨"Wcirc", [0x174], false⟩, ⟨"Wedge", [0x22c0], false⟩, ⟨"Wfr", [0x1d51a], false⟩,
  ⟨"Wopf", [0x1d54e], false⟩, ⟨"Wscr", [0x1d4b2], false⟩]

def capitalXNames : List NamedCharacter := [
  ⟨"Xfr", [0x1d51b], false⟩, ⟨"Xi", [0x39e], false⟩, ⟨"Xopf", [0x1d54f], false⟩,
  ⟨"Xscr", [0x1d4b3], false⟩]

def capitalYNames : List NamedCharacter := [
  ⟨"YAcy", [0x42f], false⟩, ⟨"YIcy", [0x407], false⟩, ⟨"YUcy", [0x42e], false⟩,
  ⟨"Yacute", [0xdd], true⟩, ⟨"Ycirc", [0x176], false⟩, ⟨"Ycy", [0x42b], false⟩,
  ⟨"Yfr", [0x1d51c], false⟩, ⟨"Yopf", [0x1d550], false⟩, ⟨"Yscr", [0x1d4b4], false⟩,
  ⟨"Yuml", [0x178], false⟩]

def capitalZNames : List NamedCharacter := [
  ⟨"ZHcy", [0x416], false⟩, ⟨"Zacute", [0x179], false⟩, ⟨"Zcaron", [0x17d], false⟩,
  ⟨"Zcy", [0x417], false⟩, ⟨"Zdot", [0x17b], false⟩, ⟨"ZeroWidthSpace", [0x200b], false⟩,
  ⟨"Zeta", [0x396], false⟩, ⟨"Zfr", [0x2128], false⟩, ⟨"Zopf", [0x2124], false⟩,
  ⟨"Zscr", [0x1d4b5], false⟩]

def smallANames : List NamedCharacter := [
  ⟨"aacute", [0xe1], true⟩, ⟨"abreve", [0x103], false⟩, ⟨"ac", [0x223e], false⟩,
  ⟨"acE", [0x223e, 0x333], false⟩, ⟨"acd", [0x223f], false⟩, ⟨"acirc", [0xe2], true⟩,
  ⟨"acute", [0xb4], true⟩, ⟨"acy", [0x430], false⟩, ⟨"aelig", [0xe6], true⟩,
  ⟨"af", [0x2061], false⟩, ⟨"afr", [0x1d51e], false⟩, ⟨"agrave", [0xe0], true⟩,
  ⟨"alefsym", [0x2135], false⟩, ⟨"aleph", [0x2135], false⟩, ⟨"alpha", [0x3b1], false⟩,
  ⟨"amacr", [0x101], false⟩, ⟨"amalg", [0x2a3f], false⟩, ⟨"amp", [0x26], true⟩,
  ⟨"and", [0x2227], false⟩, ⟨"andand", [0x2a55], false⟩, ⟨"andd", [0x2a5c], false⟩,
  ⟨"andslope", [0x2a58], false⟩, ⟨"andv", [0x2a5a], false⟩, ⟨"ang", [0x2220], false⟩,
  ⟨"ange", [0x29a4], false⟩, ⟨"angle", [0x2220], false⟩, ⟨"angmsd", [0x2221], false⟩,
  ⟨"angmsdaa", [0x29a8], false⟩, ⟨"angmsdab", [0x29a9], false⟩, ⟨"angmsdac", [0x29aa], false⟩,
  ⟨"angmsdad", [0x29ab], false⟩, ⟨"angmsdae", [0x29ac], false⟩, ⟨"angmsdaf", [0x29ad], false⟩,
  ⟨"angmsdag", [0x29ae], false⟩, ⟨"angmsdah", [0x29af], false⟩, ⟨"angrt", [0x221f], false⟩,
  ⟨"angrtvb", [0x22be], false⟩, ⟨"angrtvbd", [0x299d], false⟩, ⟨"angsph", [0x2222], false⟩,
  ⟨"angst", [0xc5], false⟩, ⟨"angzarr", [0x237c], false⟩, ⟨"aogon", [0x105], false⟩,
  ⟨"aopf", [0x1d552], false⟩, ⟨"ap", [0x2248], false⟩, ⟨"apE", [0x2a70], false⟩,
  ⟨"apacir", [0x2a6f], false⟩, ⟨"ape", [0x224a], false⟩, ⟨"apid", [0x224b], false⟩,
  ⟨"apos", [0x27], false⟩, ⟨"approx", [0x2248], false⟩, ⟨"approxeq", [0x224a], false⟩,
  ⟨"aring", [0xe5], true⟩, ⟨"ascr", [0x1d4b6], false⟩, ⟨"ast", [0x2a], false⟩,
  ⟨"asymp", [0x2248], false⟩, ⟨"asympeq", [0x224d], false⟩, ⟨"atilde", [0xe3], true⟩,
  ⟨"auml", [0xe4], true⟩, ⟨"awconint", [0x2233], false⟩, ⟨"awint", [0x2a11], false⟩]

def smallBNames : List NamedCharacter := [
  ⟨"bNot", [0x2aed], false⟩, ⟨"backcong", [0x224c], false⟩, ⟨"backepsilon", [0x3f6], false⟩,
  ⟨"backprime", [0x2035], false⟩, ⟨"backsim", [0x223d], false⟩, ⟨"backsimeq", [0x22cd], false⟩,
  ⟨"barvee", [0x22bd], false⟩, ⟨"barwed", [0x2305], false⟩, ⟨"barwedge", [0x2305], false⟩,
  ⟨"bbrk", [0x23b5], false⟩, ⟨"bbrktbrk", [0x23b6], false⟩, ⟨"bcong", [0x224c], false⟩,
  ⟨"bcy", [0x431], false⟩, ⟨"bdquo", [0x201e], false⟩, ⟨"becaus", [0x2235], false⟩,
  ⟨"because", [0x2235], false⟩, ⟨"bemptyv", [0x29b0], false⟩, ⟨"bepsi", [0x3f6], false⟩,
  ⟨"bernou", [0x212c], false⟩, ⟨"beta", [0x3b2], false⟩, ⟨"beth", [0x2136], false⟩,
  ⟨"between", [0x226c], false⟩, ⟨"bfr", [0x1d51f], false⟩, ⟨"bigcap", [0x22c2], false⟩,
  ⟨"bigcirc", [0x25ef], false⟩, ⟨"bigcup", [0x22c3], false⟩, ⟨"bigodot", [0x2a00], false⟩,
  ⟨"bigoplus", [0x2a01], false⟩, ⟨"bigotimes", [0x2a02], false⟩, ⟨"bigsqcup", [0x2a06], false⟩,
  ⟨"bigstar", [0x2605], false⟩, ⟨"bigtriangledown", [0x25bd], false⟩,
  ⟨"bigtriangleup", [0x25b3], false⟩, ⟨"biguplus", [0x2a04], false⟩, ⟨"bigvee", [0x22c1], false⟩,
  ⟨"bigwedge", [0x22c0], false⟩, ⟨"bkarow", [0x290d], false⟩, ⟨"blacklozenge", [0x29eb], false⟩,
  ⟨"blacksquare", [0x25aa], false⟩, ⟨"blacktriangle", [0x25b4], false⟩,
  ⟨"blacktriangledown", [0x25be], false⟩, ⟨"blacktriangleleft", [0x25c2], false⟩,
  ⟨"blacktriangleright", [0x25b8], false⟩, ⟨"blank", [0x2423], false⟩, ⟨"blk12", [0x2592], false⟩,
  ⟨"blk14", [0x2591], false⟩, ⟨"blk34", [0x2593], false⟩, ⟨"block", [0x2588], false⟩,
  ⟨"bne", [0x3d, 0x20e5], false⟩, ⟨"bnequiv", [0x2261, 0x20e5], false⟩, ⟨"bnot", [0x2310], false⟩,
  ⟨"bopf", [0x1d553], false⟩, ⟨"bot", [0x22a5], false⟩, ⟨"bottom", [0x22a5], false⟩,
  ⟨"bowtie", [0x22c8], false⟩, ⟨"boxDL", [0x2557], false⟩, ⟨"boxDR", [0x2554], false⟩,
  ⟨"boxDl", [0x2556], false⟩, ⟨"boxDr", [0x2553], false⟩, ⟨"boxH", [0x2550], false⟩,
  ⟨"boxHD", [0x2566], false⟩, ⟨"boxHU", [0x2569], false⟩, ⟨"boxHd", [0x2564], false⟩,
  ⟨"boxHu", [0x2567], false⟩, ⟨"boxUL", [0x255d], false⟩, ⟨"boxUR", [0x255a], false⟩,
  ⟨"boxUl", [0x255c], false⟩, ⟨"boxUr", [0x2559], false⟩, ⟨"boxV", [0x2551], false⟩,
  ⟨"boxVH", [0x256c], false⟩, ⟨"boxVL", [0x2563], false⟩, ⟨"boxVR", [0x2560], false⟩,
  ⟨"boxVh", [0x256b], false⟩, ⟨"boxVl", [0x2562], false⟩, ⟨"boxVr", [0x255f], false⟩,
  ⟨"boxbox", [0x29c9], false⟩, ⟨"boxdL", [0x2555], false⟩, ⟨"boxdR", [0x2552], false⟩,
  ⟨"boxdl", [0x2510], false⟩, ⟨"boxdr", [0x250c], false⟩, ⟨"boxh", [0x2500], false⟩,
  ⟨"boxhD", [0x2565], false⟩, ⟨"boxhU", [0x2568], false⟩, ⟨"boxhd", [0x252c], false⟩,
  ⟨"boxhu", [0x2534], false⟩, ⟨"boxminus", [0x229f], false⟩, ⟨"boxplus", [0x229e], false⟩,
  ⟨"boxtimes", [0x22a0], false⟩, ⟨"boxuL", [0x255b], false⟩, ⟨"boxuR", [0x2558], false⟩,
  ⟨"boxul", [0x2518], false⟩, ⟨"boxur", [0x2514], false⟩, ⟨"boxv", [0x2502], false⟩,
  ⟨"boxvH", [0x256a], false⟩, ⟨"boxvL", [0x2561], false⟩, ⟨"boxvR", [0x255e], false⟩,
  ⟨"boxvh", [0x253c], false⟩, ⟨"boxvl", [0x2524], false⟩, ⟨"boxvr", [0x251c], false⟩,
  ⟨"bprime", [0x2035], false⟩, ⟨"breve", [0x2d8], false⟩, ⟨"brvbar", [0xa6], true⟩,
  ⟨"bscr", [0x1d4b7], false⟩, ⟨"bsemi", [0x204f], false⟩, ⟨"bsim", [0x223d], false⟩,
  ⟨"bsime", [0x22cd], false⟩, ⟨"bsol", [0x5c], false⟩, ⟨"bsolb", [0x29c5], false⟩,
  ⟨"bsolhsub", [0x27c8], false⟩, ⟨"bull", [0x2022], false⟩, ⟨"bullet", [0x2022], false⟩,
  ⟨"bump", [0x224e], false⟩, ⟨"bumpE", [0x2aae], false⟩, ⟨"bumpe", [0x224f], false⟩,
  ⟨"bumpeq", [0x224f], false⟩]

def smallCNames : List NamedCharacter := [
  ⟨"cacute", [0x107], false⟩, ⟨"cap", [0x2229], false⟩, ⟨"capand", [0x2a44], false⟩,
  ⟨"capbrcup", [0x2a49], false⟩, ⟨"capcap", [0x2a4b], false⟩, ⟨"capcup", [0x2a47], false⟩,
  ⟨"capdot", [0x2a40], false⟩, ⟨"caps", [0x2229, 0xfe00], false⟩, ⟨"caret", [0x2041], false⟩,
  ⟨"caron", [0x2c7], false⟩, ⟨"ccaps", [0x2a4d], false⟩, ⟨"ccaron", [0x10d], false⟩,
  ⟨"ccedil", [0xe7], true⟩, ⟨"ccirc", [0x109], false⟩, ⟨"ccups", [0x2a4c], false⟩,
  ⟨"ccupssm", [0x2a50], false⟩, ⟨"cdot", [0x10b], false⟩, ⟨"cedil", [0xb8], true⟩,
  ⟨"cemptyv", [0x29b2], false⟩, ⟨"cent", [0xa2], true⟩, ⟨"centerdot", [0xb7], false⟩,
  ⟨"cfr", [0x1d520], false⟩, ⟨"chcy", [0x447], false⟩, ⟨"check", [0x2713], false⟩,
  ⟨"checkmark", [0x2713], false⟩, ⟨"chi", [0x3c7], false⟩, ⟨"cir", [0x25cb], false⟩,
  ⟨"cirE", [0x29c3], false⟩, ⟨"circ", [0x2c6], false⟩, ⟨"circeq", [0x2257], false⟩,
  ⟨"circlearrowleft", [0x21ba], false⟩, ⟨"circlearrowright", [0x21bb], false⟩,
  ⟨"circledR", [0xae], false⟩, ⟨"circledS", [0x24c8], false⟩, ⟨"circledast", [0x229b], false⟩,
  ⟨"circledcirc", [0x229a], false⟩, ⟨"circleddash", [0x229d], false⟩, ⟨"cire", [0x2257], false⟩,
  ⟨"cirfnint", [0x2a10], false⟩, ⟨"cirmid", [0x2aef], false⟩, ⟨"cirscir", [0x29c2], false⟩,
  ⟨"clubs", [0x2663], false⟩, ⟨"clubsuit", [0x2663], false⟩, ⟨"colon", [0x3a], false⟩,
  ⟨"colone", [0x2254], false⟩, ⟨"coloneq", [0x2254], false⟩, ⟨"comma", [0x2c], false⟩,
  ⟨"commat", [0x40], false⟩, ⟨"comp", [0x2201], false⟩, ⟨"compfn", [0x2218], false⟩,
  ⟨"complement", [0x2201], false⟩, ⟨"complexes", [0x2102], false⟩, ⟨"cong", [0x2245], false⟩,
  ⟨"congdot", [0x2a6d], false⟩, ⟨"conint", [0x222e], false⟩, ⟨"copf", [0x1d554], false⟩,
  ⟨"coprod", [0x2210], false⟩, ⟨"copy", [0xa9], true⟩, ⟨"copysr", [0x2117], false⟩,
  ⟨"crarr", [0x21b5], false⟩, ⟨"cross", [0x2717], false⟩, ⟨"cscr", [0x1d4b8], false⟩,
  ⟨"csub", [0x2acf], false⟩, ⟨"csube", [0x2ad1], false⟩, ⟨"csup", [0x2ad0], false⟩,
  ⟨"csupe", [0x2ad2], false⟩, ⟨"ctdot", [0x22ef], false⟩, ⟨"cudarrl", [0x2938], false⟩,
  ⟨"cudarrr", [0x2935], false⟩, ⟨"cuepr", [0x22de], false⟩, ⟨"cuesc", [0x22df], false⟩,
  ⟨"cularr", [0x21b6], false⟩, ⟨"cularrp", [0x293d], false⟩, ⟨"cup", [0x222a], false⟩,
  ⟨"cupbrcap", [0x2a48], false⟩, ⟨"cupcap", [0x2a46], false⟩, ⟨"cupcup", [0x2a4a], false⟩,
  ⟨"cupdot", [0x228d], false⟩, ⟨"cupor", [0x2a45], false⟩, ⟨"cups", [0x222a, 0xfe00], false⟩,
  ⟨"curarr", [0x21b7], false⟩, ⟨"curarrm", [0x293c], false⟩, ⟨"curlyeqprec", [0x22de], false⟩,
  ⟨"curlyeqsucc", [0x22df], false⟩, ⟨"curlyvee", [0x22ce], false⟩, ⟨"curlywedge", [0x22cf], false⟩,
  ⟨"curren", [0xa4], true⟩, ⟨"curvearrowleft", [0x21b6], false⟩,
  ⟨"curvearrowright", [0x21b7], false⟩, ⟨"cuvee", [0x22ce], false⟩, ⟨"cuwed", [0x22cf], false⟩,
  ⟨"cwconint", [0x2232], false⟩, ⟨"cwint", [0x2231], false⟩, ⟨"cylcty", [0x232d], false⟩]

def smallDNames : List NamedCharacter := [
  ⟨"dArr", [0x21d3], false⟩, ⟨"dHar", [0x2965], false⟩, ⟨"dagger", [0x2020], false⟩,
  ⟨"daleth", [0x2138], false⟩, ⟨"darr", [0x2193], false⟩, ⟨"dash", [0x2010], false⟩,
  ⟨"dashv", [0x22a3], false⟩, ⟨"dbkarow", [0x290f], false⟩, ⟨"dblac", [0x2dd], false⟩,
  ⟨"dcaron", [0x10f], false⟩, ⟨"dcy", [0x434], false⟩, ⟨"dd", [0x2146], false⟩,
  ⟨"ddagger", [0x2021], false⟩, ⟨"ddarr", [0x21ca], false⟩, ⟨"ddotseq", [0x2a77], false⟩,
  ⟨"deg", [0xb0], true⟩, ⟨"delta", [0x3b4], false⟩, ⟨"demptyv", [0x29b1], false⟩,
  ⟨"dfisht", [0x297f], false⟩, ⟨"dfr", [0x1d521], false⟩, ⟨"dharl", [0x21c3], false⟩,
  ⟨"dharr", [0x21c2], false⟩, ⟨"diam", [0x22c4], false⟩, ⟨"diamond", [0x22c4], false⟩,
  ⟨"diamondsuit", [0x2666], false⟩, ⟨"diams", [0x2666], false⟩, ⟨"die", [0xa8], false⟩,
  ⟨"digamma", [0x3dd], false⟩, ⟨"disin", [0x22f2], false⟩, ⟨"div", [0xf7], false⟩,
  ⟨"divide", [0xf7], true⟩, ⟨"divideontimes", [0x22c7], false⟩, ⟨"divonx", [0x22c7], false⟩,
  ⟨"djcy", [0x452], false⟩, ⟨"dlcorn", [0x231e], false⟩, ⟨"dlcrop", [0x230d], false⟩,
  ⟨"dollar", [0x24], false⟩, ⟨"dopf", [0x1d555], false⟩, ⟨"dot", [0x2d9], false⟩,
  ⟨"doteq", [0x2250], false⟩, ⟨"doteqdot", [0x2251], false⟩, ⟨"dotminus", [0x2238], false⟩,
  ⟨"dotplus", [0x2214], false⟩, ⟨"dotsquare", [0x22a1], false⟩,
  ⟨"doublebarwedge", [0x2306], false⟩, ⟨"downarrow", [0x2193], false⟩,
  ⟨"downdownarrows", [0x21ca], false⟩, ⟨"downharpoonleft", [0x21c3], false⟩,
  ⟨"downharpoonright", [0x21c2], false⟩, ⟨"drbkarow", [0x2910], false⟩,
  ⟨"drcorn", [0x231f], false⟩, ⟨"drcrop", [0x230c], false⟩, ⟨"dscr", [0x1d4b9], false⟩,
  ⟨"dscy", [0x455], false⟩, ⟨"dsol", [0x29f6], false⟩, ⟨"dstrok", [0x111], false⟩,
  ⟨"dtdot", [0x22f1], false⟩, ⟨"dtri", [0x25bf], false⟩, ⟨"dtrif", [0x25be], false⟩,
  ⟨"duarr", [0x21f5], false⟩, ⟨"duhar", [0x296f], false⟩, ⟨"dwangle", [0x29a6], false⟩,
  ⟨"dzcy", [0x45f], false⟩, ⟨"dzigrarr", [0x27ff], false⟩]

def smallENames : List NamedCharacter := [
  ⟨"eDDot", [0x2a77], false⟩, ⟨"eDot", [0x2251], false⟩, ⟨"eacute", [0xe9], true⟩,
  ⟨"easter", [0x2a6e], false⟩, ⟨"ecaron", [0x11b], false⟩, ⟨"ecir", [0x2256], false⟩,
  ⟨"ecirc", [0xea], true⟩, ⟨"ecolon", [0x2255], false⟩, ⟨"ecy", [0x44d], false⟩,
  ⟨"edot", [0x117], false⟩, ⟨"ee", [0x2147], false⟩, ⟨"efDot", [0x2252], false⟩,
  ⟨"efr", [0x1d522], false⟩, ⟨"eg", [0x2a9a], false⟩, ⟨"egrave", [0xe8], true⟩,
  ⟨"egs", [0x2a96], false⟩, ⟨"egsdot", [0x2a98], false⟩, ⟨"el", [0x2a99], false⟩,
  ⟨"elinters", [0x23e7], false⟩, ⟨"ell", [0x2113], false⟩, ⟨"els", [0x2a95], false⟩,
  ⟨"elsdot", [0x2a97], false⟩, ⟨"emacr", [0x113], false⟩, ⟨"empty", [0x2205], false⟩,
  ⟨"emptyset", [0x2205], false⟩, ⟨"emptyv", [0x2205], false⟩, ⟨"emsp", [0x2003], false⟩,
  ⟨"emsp13", [0x2004], false⟩, ⟨"emsp14", [0x2005], false⟩, ⟨"eng", [0x14b], false⟩,
  ⟨"ensp", [0x2002], false⟩, ⟨"eogon", [0x119], false⟩, ⟨"eopf", [0x1d556], false⟩,
  ⟨"epar", [0x22d5], false⟩, ⟨"eparsl", [0x29e3], false⟩, ⟨"eplus", [0x2a71], false⟩,
  ⟨"epsi", [0x3b5], false⟩, ⟨"epsilon", [0x3b5], false⟩, ⟨"epsiv", [0x3f5], false⟩,
  ⟨"eqcirc", [0x2256], false⟩, ⟨"eqcolon", [0x2255], false⟩, ⟨"eqsim", [0x2242], false⟩,
  ⟨"eqslantgtr", [0x2a96], false⟩, ⟨"eqslantless", [0x2a95], false⟩, ⟨"equals", [0x3d], false⟩,
  ⟨"equest", [0x225f], false⟩, ⟨"equiv", [0x2261], false⟩, ⟨"equivDD", [0x2a78], false⟩,
  ⟨"eqvparsl", [0x29e5], false⟩, ⟨"erDot", [0x2253], false⟩, ⟨"erarr", [0x2971], false⟩,
  ⟨"escr", [0x212f], false⟩, ⟨"esdot", [0x2250], false⟩, ⟨"esim", [0x2242], false⟩,
  ⟨"eta", [0x3b7], false⟩, ⟨"eth", [0xf0], true⟩, ⟨"euml", [0xeb], true⟩,
  ⟨"euro", [0x20ac], false⟩, ⟨"excl", [0x21], false⟩, ⟨"exist", [0x2203], false⟩,
  ⟨"expectation", [0x2130], false⟩, ⟨"exponentiale", [0x2147], false⟩]

def smallFNames : List NamedCharacter := [
  ⟨"fallingdotseq", [0x2252], false⟩, ⟨"fcy", [0x444], false⟩, ⟨"female", [0x2640], false⟩,
  ⟨"ffilig", [0xfb03], false⟩, ⟨"fflig", [0xfb00], false⟩, ⟨"ffllig", [0xfb04], false⟩,
  ⟨"ffr", [0x1d523], false⟩, ⟨"filig", [0xfb01], false⟩, ⟨"fjlig", [0x66, 0x6a], false⟩,
  ⟨"flat", [0x266d], false⟩, ⟨"fllig", [0xfb02], false⟩, ⟨"fltns", [0x25b1], false⟩,
  ⟨"fnof", [0x192], false⟩, ⟨"fopf", [0x1d557], false⟩, ⟨"forall", [0x2200], false⟩,
  ⟨"fork", [0x22d4], false⟩, ⟨"forkv", [0x2ad9], false⟩, ⟨"fpartint", [0x2a0d], false⟩,
  ⟨"frac12", [0xbd], true⟩, ⟨"frac13", [0x2153], false⟩, ⟨"frac14", [0xbc], true⟩,
  ⟨"frac15", [0x2155], false⟩, ⟨"frac16", [0x2159], false⟩, ⟨"frac18", [0x215b], false⟩,
  ⟨"frac23", [0x2154], false⟩, ⟨"frac25", [0x2156], false⟩, ⟨"frac34", [0xbe], true⟩,
  ⟨"frac35", [0x2157], false⟩, ⟨"frac38", [0x215c], false⟩, ⟨"frac45", [0x2158], false⟩,
  ⟨"frac56", [0x215a], false⟩, ⟨"frac58", [0x215d], false⟩, ⟨"frac78", [0x215e], false⟩,
  ⟨"frasl", [0x2044], false⟩, ⟨"frown", [0x2322], false⟩, ⟨"fscr", [0x1d4bb], false⟩]

def smallGNames : List NamedCharacter := [
  ⟨"gE", [0x2267], false⟩, ⟨"gEl", [0x2a8c], false⟩, ⟨"gacute", [0x1f5], false⟩,
  ⟨"gamma", [0x3b3], false⟩, ⟨"gammad", [0x3dd], false⟩, ⟨"gap", [0x2a86], false⟩,
  ⟨"gbreve", [0x11f], false⟩, ⟨"gcirc", [0x11d], false⟩, ⟨"gcy", [0x433], false⟩,
  ⟨"gdot", [0x121], false⟩, ⟨"ge", [0x2265], false⟩, ⟨"gel", [0x22db], false⟩,
  ⟨"geq", [0x2265], false⟩, ⟨"geqq", [0x2267], false⟩, ⟨"geqslant", [0x2a7e], false⟩,
  ⟨"ges", [0x2a7e], false⟩, ⟨"gescc", [0x2aa9], false⟩, ⟨"gesdot", [0x2a80], false⟩,
  ⟨"gesdoto", [0x2a82], false⟩, ⟨"gesdotol", [0x2a84], false⟩, ⟨"gesl", [0x22db, 0xfe00], false⟩,
  ⟨"gesles", [0x2a94], false⟩, ⟨"gfr", [0x1d524], false⟩, ⟨"gg", [0x226b], false⟩,
  ⟨"ggg", [0x22d9], false⟩, ⟨"gimel", [0x2137], false⟩, ⟨"gjcy", [0x453], false⟩,
  ⟨"gl", [0x2277], false⟩, ⟨"glE", [0x2a92], false⟩, ⟨"gla", [0x2aa5], false⟩,
  ⟨"glj", [0x2aa4], false⟩, ⟨"gnE", [0x2269], false⟩, ⟨"gnap", [0x2a8a], false⟩,
  ⟨"gnapprox", [0x2a8a], false⟩, ⟨"gne", [0x2a88], false⟩, ⟨"gneq", [0x2a88], false⟩,
  ⟨"gneqq", [0x2269], false⟩, ⟨"gnsim", [0x22e7], false⟩, ⟨"gopf", [0x1d558], false⟩,
  ⟨"grave", [0x60], false⟩, ⟨"gscr", [0x210a], false⟩, ⟨"gsim", [0x2273], false⟩,
  ⟨"gsime", [0x2a8e], false⟩, ⟨"gsiml", [0x2a90], false⟩, ⟨"gt", [0x3e], true⟩,
  ⟨"gtcc", [0x2aa7], false⟩, ⟨"gtcir", [0x2a7a], false⟩, ⟨"gtdot", [0x22d7], false⟩,
  ⟨"gtlPar", [0x2995], false⟩, ⟨"gtquest", [0x2a7c], false⟩, ⟨"gtrapprox", [0x2a86], false⟩,
  ⟨"gtrarr", [0x2978], false⟩, ⟨"gtrdot", [0x22d7], false⟩, ⟨"gtreqless", [0x22db], false⟩,
  ⟨"gtreqqless", [0x2a8c], false⟩, ⟨"gtrless", [0x2277], false⟩, ⟨"gtrsim", [0x2273], false⟩,
  ⟨"gvertneqq", [0x2269, 0xfe00], false⟩, ⟨"gvnE", [0x2269, 0xfe00], false⟩]

def smallHNames : List NamedCharacter := [
  ⟨"hArr", [0x21d4], false⟩, ⟨"hairsp", [0x200a], false⟩, ⟨"half", [0xbd], false⟩,
  ⟨"hamilt", [0x210b], false⟩, ⟨"hardcy", [0x44a], false⟩, ⟨"harr", [0x2194], false⟩,
  ⟨"harrcir", [0x2948], false⟩, ⟨"harrw", [0x21ad], false⟩, ⟨"hbar", [0x210f], false⟩,
  ⟨"hcirc", [0x125], false⟩, ⟨"hearts", [0x2665], false⟩, ⟨"heartsuit", [0x2665], false⟩,
  ⟨"hellip", [0x2026], false⟩, ⟨"hercon", [0x22b9], false⟩, ⟨"hfr", [0x1d525], false⟩,
  ⟨"hksearow", [0x2925], false⟩, ⟨"hkswarow", [0x2926], false⟩, ⟨"hoarr", [0x21ff], false⟩,
  ⟨"homtht", [0x223b], false⟩, ⟨"hookleftarrow", [0x21a9], false⟩,
  ⟨"hookrightarrow", [0x21aa], false⟩, ⟨"hopf", [0x1d559], false⟩, ⟨"horbar", [0x2015], false⟩,
  ⟨"hscr", [0x1d4bd], false⟩, ⟨"hslash", [0x210f], false⟩, ⟨"hstrok", [0x127], false⟩,
  ⟨"hybull", [0x2043], false⟩, ⟨"hyphen", [0x2010], false⟩]

def smallINames : List NamedCharacter := [
  ⟨"iacute", [0xed], true⟩, ⟨"ic", [0x2063], false⟩, ⟨"icirc", [0xee], true⟩,
  ⟨"icy", [0x438], false⟩, ⟨"iecy", [0x435], false⟩, ⟨"iexcl", [0xa1], true⟩,
  ⟨"iff", [0x21d4], false⟩, ⟨"ifr", [0x1d526], false⟩, ⟨"igrave", [0xec], true⟩,
  ⟨"ii", [0x2148], false⟩, ⟨"iiiint", [0x2a0c], false⟩, ⟨"iiint", [0x222d], false⟩,
  ⟨"iinfin", [0x29dc], false⟩, ⟨"iiota", [0x2129], false⟩, ⟨"ijlig", [0x133], false⟩,
  ⟨"imacr", [0x12b], false⟩, ⟨"image", [0x2111], false⟩, ⟨"imagline", [0x2110], false⟩,
  ⟨"imagpart", [0x2111], false⟩, ⟨"imath", [0x131], false⟩, ⟨"imof", [0x22b7], false⟩,
  ⟨"imped", [0x1b5], false⟩, ⟨"in", [0x2208], false⟩, ⟨"incare", [0x2105], false⟩,
  ⟨"infin", [0x221e], false⟩, ⟨"infintie", [0x29dd], false⟩, ⟨"inodot", [0x131], false⟩,
  ⟨"int", [0x222b], false⟩, ⟨"intcal", [0x22ba], false⟩, ⟨"integers", [0x2124], false⟩,
  ⟨"intercal", [0x22ba], false⟩, ⟨"intlarhk", [0x2a17], false⟩, ⟨"intprod", [0x2a3c], false⟩,
  ⟨"iocy", [0x451], false⟩, ⟨"iogon", [0x12f], false⟩, ⟨"iopf", [0x1d55a], false⟩,
  ⟨"iota", [0x3b9], false⟩, ⟨"iprod", [0x2a3c], false⟩, ⟨"iquest", [0xbf], true⟩,
  ⟨"iscr", [0x1d4be], false⟩, ⟨"isin", [0x2208], false⟩, ⟨"isinE", [0x22f9], false⟩,
  ⟨"isindot", [0x22f5], false⟩, ⟨"isins", [0x22f4], false⟩, ⟨"isinsv", [0x22f3], false⟩,
  ⟨"isinv", [0x2208], false⟩, ⟨"it", [0x2062], false⟩, ⟨"itilde", [0x129], false⟩,
  ⟨"iukcy", [0x456], false⟩, ⟨"iuml", [0xef], true⟩]

def smallJNames : List NamedCharacter := [
  ⟨"jcirc", [0x135], false⟩, ⟨"jcy", [0x439], false⟩, ⟨"jfr", [0x1d527], false⟩,
  ⟨"jmath", [0x237], false⟩, ⟨"jopf", [0x1d55b], false⟩, ⟨"jscr", [0x1d4bf], false⟩,
  ⟨"jsercy", [0x458], false⟩, ⟨"jukcy", [0x454], false⟩]

def smallKNames : List NamedCharacter := [
  ⟨"kappa", [0x3ba], false⟩, ⟨"kappav", [0x3f0], false⟩, ⟨"kcedil", [0x137], false⟩,
  ⟨"kcy", [0x43a], false⟩, ⟨"kfr", [0x1d528], false⟩, ⟨"kgreen", [0x138], false⟩,
  ⟨"khcy", [0x445], false⟩, ⟨"kjcy", [0x45c], false⟩, ⟨"kopf", [0x1d55c], false⟩,
  ⟨"kscr", [0x1d4c0], false⟩]

def smallLNames : List NamedCharacter := [
  ⟨"lAarr", [0x21da], false⟩, ⟨"lArr", [0x21d0], false⟩, ⟨"lAtail", [0x291b], false⟩,
  ⟨"lBarr", [0x290e], false⟩, ⟨"lE", [0x2266], false⟩, ⟨"lEg", [0x2a8b], false⟩,
  ⟨"lHar", [0x2962], false⟩, ⟨"lacute", [0x13a], false⟩, ⟨"laemptyv", [0x29b4], false⟩,
  ⟨"lagran", [0x2112], false⟩, ⟨"lambda", [0x3bb], false⟩, ⟨"lang", [0x27e8], false⟩,
  ⟨"langd", [0x2991], false⟩, ⟨"langle", [0x27e8], false⟩, ⟨"lap", [0x2a85], false⟩,
  ⟨"laquo", [0xab], true⟩, ⟨"larr", [0x2190], false⟩, ⟨"larrb", [0x21e4], false⟩,
  ⟨"larrbfs", [0x291f], false⟩, ⟨"larrfs", [0x291d], false⟩, ⟨"larrhk", [0x21a9], false⟩,
  ⟨"larrlp", [0x21ab], false⟩, ⟨"larrpl", [0x2939], false⟩, ⟨"larrsim", [0x2973], false⟩,
  ⟨"larrtl", [0x21a2], false⟩, ⟨"lat", [0x2aab], false⟩, ⟨"latail", [0x2919], false⟩,
  ⟨"late", [0x2aad], false⟩, ⟨"lates", [0x2aad, 0xfe00], false⟩, ⟨"lbarr", [0x290c], false⟩,
  ⟨"lbbrk", [0x2772], false⟩, ⟨"lbrace", [0x7b], false⟩, ⟨"lbrack", [0x5b], false⟩,
  ⟨"lbrke", [0x298b], false⟩, ⟨"lbrksld", [0x298f], false⟩, ⟨"lbrkslu", [0x298d], false⟩,
  ⟨"lcaron", [0x13e], false⟩, ⟨"lcedil", [0x13c], false⟩, ⟨"lceil", [0x2308], false⟩,
  ⟨"lcub", [0x7b], false⟩, ⟨"lcy", [0x43b], false⟩, ⟨"ldca", [0x2936], false⟩,
  ⟨"ldquo", [0x201c], false⟩, ⟨"ldquor", [0x201e], false⟩, ⟨"ldrdhar", [0x2967], false⟩,
  ⟨"ldrushar", [0x294b], false⟩, ⟨"ldsh", [0x21b2], false⟩, ⟨"le", [0x2264], false⟩,
  ⟨"leftarrow", [0x2190], false⟩, ⟨"leftarrowtail", [0x21a2], false⟩,
  ⟨"leftharpoondown", [0x21bd], false⟩, ⟨"leftharpoonup", [0x21bc], false⟩,
  ⟨"leftleftarrows", [0x21c7], false⟩, ⟨"leftrightarrow", [0x2194], false⟩,
  ⟨"leftrightarrows", [0x21c6], false⟩, ⟨"leftrightharpoons", [0x21cb], false⟩,
  ⟨"leftrightsquigarrow", [0x21ad], false⟩, ⟨"leftthreetimes", [0x22cb], false⟩,
  ⟨"leg", [0x22da], false⟩, ⟨"leq", [0x2264], false⟩, ⟨"leqq", [0x2266], false⟩,
  ⟨"leqslant", [0x2a7d], false⟩, ⟨"les", [0x2a7d], false⟩, ⟨"lescc", [0x2aa8], false⟩,
  ⟨"lesdot", [0x2a7f], false⟩, ⟨"lesdoto", [0x2a81], false⟩, ⟨"lesdotor", [0x2a83], false⟩,
  ⟨"lesg", [0x22da, 0xfe00], false⟩, ⟨"lesges", [0x2a93], false⟩, ⟨"lessapprox", [0x2a85], false⟩,
  ⟨"lessdot", [0x22d6], false⟩, ⟨"lesseqgtr", [0x22da], false⟩, ⟨"lesseqqgtr", [0x2a8b], false⟩,
  ⟨"lessgtr", [0x2276], false⟩, ⟨"lesssim", [0x2272], false⟩, ⟨"lfisht", [0x297c], false⟩,
  ⟨"lfloor", [0x230a], false⟩, ⟨"lfr", [0x1d529], false⟩, ⟨"lg", [0x2276], false⟩,
  ⟨"lgE", [0x2a91], false⟩, ⟨"lhard", [0x21bd], false⟩, ⟨"lharu", [0x21bc], false⟩,
  ⟨"lharul", [0x296a], false⟩, ⟨"lhblk", [0x2584], false⟩, ⟨"ljcy", [0x459], false⟩,
  ⟨"ll", [0x226a], false⟩, ⟨"llarr", [0x21c7], false⟩, ⟨"llcorner", [0x231e], false⟩,
  ⟨"llhard", [0x296b], false⟩, ⟨"lltri", [0x25fa], false⟩, ⟨"lmidot", [0x140], false⟩,
  ⟨"lmoust", [0x23b0], false⟩, ⟨"lmoustache", [0x23b0], false⟩, ⟨"lnE", [0x2268], false⟩,
  ⟨"lnap", [0x2a89], false⟩, ⟨"lnapprox", [0x2a89], false⟩, ⟨"lne", [0x2a87], false⟩,
  ⟨"lneq", [0x2a87], false⟩, ⟨"lneqq", [0x2268], false⟩, ⟨"lnsim", [0x22e6], false⟩,
  ⟨"loang", [0x27ec], false⟩, ⟨"loarr", [0x21fd], false⟩, ⟨"lobrk", [0x27e6], false⟩,
  ⟨"longleftarrow", [0x27f5], false⟩, ⟨"longleftrightarrow", [0x27f7], false⟩,
  ⟨"longmapsto", [0x27fc], false⟩, ⟨"longrightarrow", [0x27f6], false⟩,
  ⟨"looparrowleft", [0x21ab], false⟩, ⟨"looparrowright", [0x21ac], false⟩,
  ⟨"lopar", [0x2985], false⟩, ⟨"lopf", [0x1d55d], false⟩, ⟨"loplus", [0x2a2d], false⟩,
  ⟨"lotimes", [0x2a34], false⟩, ⟨"lowast", [0x2217], false⟩, ⟨"lowbar", [0x5f], false⟩,
  ⟨"loz", [0x25ca], false⟩, ⟨"lozenge", [0x25ca], false⟩, ⟨"lozf", [0x29eb], false⟩,
  ⟨"lpar", [0x28], false⟩, ⟨"lparlt", [0x2993], false⟩, ⟨"lrarr", [0x21c6], false⟩,
  ⟨"lrcorner", [0x231f], false⟩, ⟨"lrhar", [0x21cb], false⟩, ⟨"lrhard", [0x296d], false⟩,
  ⟨"lrm", [0x200e], false⟩, ⟨"lrtri", [0x22bf], false⟩, ⟨"lsaquo", [0x2039], false⟩,
  ⟨"lscr", [0x1d4c1], false⟩, ⟨"lsh", [0x21b0], false⟩, ⟨"lsim", [0x2272], false⟩,
  ⟨"lsime", [0x2a8d], false⟩, ⟨"lsimg", [0x2a8f], false⟩, ⟨"lsqb", [0x5b], false⟩,
  ⟨"lsquo", [0x2018], false⟩, ⟨"lsquor", [0x201a], false⟩, ⟨"lstrok", [0x142], false⟩,
  ⟨"lt", [0x3c], true⟩, ⟨"ltcc", [0x2aa6], false⟩, ⟨"ltcir", [0x2a79], false⟩,
  ⟨"ltdot", [0x22d6], false⟩, ⟨"lthree", [0x22cb], false⟩, ⟨"ltimes", [0x22c9], false⟩,
  ⟨"ltlarr", [0x2976], false⟩, ⟨"ltquest", [0x2a7b], false⟩, ⟨"ltrPar", [0x2996], false⟩,
  ⟨"ltri", [0x25c3], false⟩, ⟨"ltrie", [0x22b4], false⟩, ⟨"ltrif", [0x25c2], false⟩,
  ⟨"lurdshar", [0x294a], false⟩, ⟨"luruhar", [0x2966], false⟩,
  ⟨"lvertneqq", [0x2268, 0xfe00], false⟩, ⟨"lvnE", [0x2268, 0xfe00], false⟩]

def smallMNames : List NamedCharacter := [
  ⟨"mDDot", [0x223a], false⟩, ⟨"macr", [0xaf], true⟩, ⟨"male", [0x2642], false⟩,
  ⟨"malt", [0x2720], false⟩, ⟨"maltese", [0x2720], false⟩, ⟨"map", [0x21a6], false⟩,
  ⟨"mapsto", [0x21a6], false⟩, ⟨"mapstodown", [0x21a7], false⟩, ⟨"mapstoleft", [0x21a4], false⟩,
  ⟨"mapstoup", [0x21a5], false⟩, ⟨"marker", [0x25ae], false⟩, ⟨"mcomma", [0x2a29], false⟩,
  ⟨"mcy", [0x43c], false⟩, ⟨"mdash", [0x2014], false⟩, ⟨"measuredangle", [0x2221], false⟩,
  ⟨"mfr", [0x1d52a], false⟩, ⟨"mho", [0x2127], false⟩, ⟨"micro", [0xb5], true⟩,
  ⟨"mid", [0x2223], false⟩, ⟨"midast", [0x2a], false⟩, ⟨"midcir", [0x2af0], false⟩,
  ⟨"middot", [0xb7], true⟩, ⟨"minus", [0x2212], false⟩, ⟨"minusb", [0x229f], false⟩,
  ⟨"minusd", [0x2238], false⟩, ⟨"minusdu", [0x2a2a], false⟩, ⟨"mlcp", [0x2adb], false⟩,
  ⟨"mldr", [0x2026], false⟩, ⟨"mnplus", [0x2213], false⟩, ⟨"models", [0x22a7], false⟩,
  ⟨"mopf", [0x1d55e], false⟩, ⟨"mp", [0x2213], false⟩, ⟨"mscr", [0x1d4c2], false⟩,
  ⟨"mstpos", [0x223e], false⟩, ⟨"mu", [0x3bc], false⟩, ⟨"multimap", [0x22b8], false⟩,
  ⟨"mumap", [0x22b8], false⟩]

def smallNNames : List NamedCharacter := [
  ⟨"nGg", [0x22d9, 0x338], false⟩, ⟨"nGt", [0x226b, 0x20d2], false⟩,
  ⟨"nGtv", [0x226b, 0x338], false⟩, ⟨"nLeftarrow", [0x21cd], false⟩,
  ⟨"nLeftrightarrow", [0x21ce], false⟩, ⟨"nLl", [0x22d8, 0x338], false⟩,
  ⟨"nLt", [0x226a, 0x20d2], false⟩, ⟨"nLtv", [0x226a, 0x338], false⟩,
  ⟨"nRightarrow", [0x21cf], false⟩, ⟨"nVDash", [0x22af], false⟩, ⟨"nVdash", [0x22ae], false⟩,
  ⟨"nabla", [0x2207], false⟩, ⟨"nacute", [0x144], false⟩, ⟨"nang", [0x2220, 0x20d2], false⟩,
  ⟨"nap", [0x2249], false⟩, ⟨"napE", [0x2a70, 0x338], false⟩, ⟨"napid", [0x224b, 0x338], false⟩,
  ⟨"napos", [0x149], false⟩, ⟨"napprox", [0x2249], false⟩, ⟨"natur", [0x266e], false⟩,
  ⟨"natural", [0x266e], false⟩, ⟨"naturals", [0x2115], false⟩, ⟨"nbsp", [0xa0], true⟩,
  ⟨"nbump", [0x224e, 0x338], false⟩, ⟨"nbumpe", [0x224f, 0x338], false⟩, ⟨"ncap", [0x2a43], false⟩,
  ⟨"ncaron", [0x148], false⟩, ⟨"ncedil", [0x146], false⟩, ⟨"ncong", [0x2247], false⟩,
  ⟨"ncongdot", [0x2a6d, 0x338], false⟩, ⟨"ncup", [0x2a42], false⟩, ⟨"ncy", [0x43d], false⟩,
  ⟨"ndash", [0x2013], false⟩, ⟨"ne", [0x2260], false⟩, ⟨"neArr", [0x21d7], false⟩,
  ⟨"nearhk", [0x2924], false⟩, ⟨"nearr", [0x2197], false⟩, ⟨"nearrow", [0x2197], false⟩,
  ⟨"nedot", [0x2250, 0x338], false⟩, ⟨"nequiv", [0x2262], false⟩, ⟨"nesear", [0x2928], false⟩,
  ⟨"nesim", [0x2242, 0x338], false⟩, ⟨"nexist", [0x2204], false⟩, ⟨"nexists", [0x2204], false⟩,
  ⟨"nfr", [0x1d52b], false⟩, ⟨"ngE", [0x2267, 0x338], false⟩, ⟨"nge", [0x2271], false⟩,
  ⟨"ngeq", [0x2271], false⟩, ⟨"ngeqq", [0x2267, 0x338], false⟩,
  ⟨"ngeqslant", [0x2a7e, 0x338], false⟩, ⟨"nges", [0x2a7e, 0x338], false⟩,
  ⟨"ngsim", [0x2275], false⟩, ⟨"ngt", [0x226f], false⟩, ⟨"ngtr", [0x226f], false⟩,
  ⟨"nhArr", [0x21ce], false⟩, ⟨"nharr", [0x21ae], false⟩, ⟨"nhpar", [0x2af2], false⟩,
  ⟨"ni", [0x220b], false⟩, ⟨"nis", [0x22fc], false⟩, ⟨"nisd", [0x22fa], false⟩,
  ⟨"niv", [0x220b], false⟩, ⟨"njcy", [0x45a], false⟩, ⟨"nlArr", [0x21cd], false⟩,
  ⟨"nlE", [0x2266, 0x338], false⟩, ⟨"nlarr", [0x219a], false⟩, ⟨"nldr", [0x2025], false⟩,
  ⟨"nle", [0x2270], false⟩, ⟨"nleftarrow", [0x219a], false⟩, ⟨"nleftrightarrow", [0x21ae], false⟩,
  ⟨"nleq", [0x2270], false⟩, ⟨"nleqq", [0x2266, 0x338], false⟩,
  ⟨"nleqslant", [0x2a7d, 0x338], false⟩, ⟨"nles", [0x2a7d, 0x338], false⟩,
  ⟨"nless", [0x226e], false⟩, ⟨"nlsim", [0x2274], false⟩, ⟨"nlt", [0x226e], false⟩,
  ⟨"nltri", [0x22ea], false⟩, ⟨"nltrie", [0x22ec], false⟩, ⟨"nmid", [0x2224], false⟩,
  ⟨"nopf", [0x1d55f], false⟩, ⟨"not", [0xac], true⟩, ⟨"notin", [0x2209], false⟩,
  ⟨"notinE", [0x22f9, 0x338], false⟩, ⟨"notindot", [0x22f5, 0x338], false⟩,
  ⟨"notinva", [0x2209], false⟩, ⟨"notinvb", [0x22f7], false⟩, ⟨"notinvc", [0x22f6], false⟩,
  ⟨"notni", [0x220c], false⟩, ⟨"notniva", [0x220c], false⟩, ⟨"notnivb", [0x22fe], false⟩,
  ⟨"notnivc", [0x22fd], false⟩, ⟨"npar", [0x2226], false⟩, ⟨"nparallel", [0x2226], false⟩,
  ⟨"nparsl", [0x2afd, 0x20e5], false⟩, ⟨"npart", [0x2202, 0x338], false⟩,
  ⟨"npolint", [0x2a14], false⟩, ⟨"npr", [0x2280], false⟩, ⟨"nprcue", [0x22e0], false⟩,
  ⟨"npre", [0x2aaf, 0x338], false⟩, ⟨"nprec", [0x2280], false⟩,
  ⟨"npreceq", [0x2aaf, 0x338], false⟩, ⟨"nrArr", [0x21cf], false⟩, ⟨"nrarr", [0x219b], false⟩,
  ⟨"nrarrc", [0x2933, 0x338], false⟩, ⟨"nrarrw", [0x219d, 0x338], false⟩,
  ⟨"nrightarrow", [0x219b], false⟩, ⟨"nrtri", [0x22eb], false⟩, ⟨"nrtrie", [0x22ed], false⟩,
  ⟨"nsc", [0x2281], false⟩, ⟨"nsccue", [0x22e1], false⟩, ⟨"nsce", [0x2ab0, 0x338], false⟩,
  ⟨"nscr", [0x1d4c3], false⟩, ⟨"nshortmid", [0x2224], false⟩, ⟨"nshortparallel", [0x2226], false⟩,
  ⟨"nsim", [0x2241], false⟩, ⟨"nsime", [0x2244], false⟩, ⟨"nsimeq", [0x2244], false⟩,
  ⟨"nsmid", [0x2224], false⟩, ⟨"nspar", [0x2226], false⟩, ⟨"nsqsube", [0x22e2], false⟩,
  ⟨"nsqsupe", [0x22e3], false⟩, ⟨"nsub", [0x2284], false⟩, ⟨"nsubE", [0x2ac5, 0x338], false⟩,
  ⟨"nsube", [0x2288], false⟩, ⟨"nsubset", [0x2282, 0x20d2], false⟩, ⟨"nsubseteq", [0x2288], false⟩,
  ⟨"nsubseteqq", [0x2ac5, 0x338], false⟩, ⟨"nsucc", [0x2281], false⟩,
  ⟨"nsucceq", [0x2ab0, 0x338], false⟩, ⟨"nsup", [0x2285], false⟩,
  ⟨"nsupE", [0x2ac6, 0x338], false⟩, ⟨"nsupe", [0x2289], false⟩,
  ⟨"nsupset", [0x2283, 0x20d2], false⟩, ⟨"nsupseteq", [0x2289], false⟩,
  ⟨"nsupseteqq", [0x2ac6, 0x338], false⟩, ⟨"ntgl", [0x2279], false⟩, ⟨"ntilde", [0xf1], true⟩,
  ⟨"ntlg", [0x2278], false⟩, ⟨"ntriangleleft", [0x22ea], false⟩,
  ⟨"ntrianglelefteq", [0x22ec], false⟩, ⟨"ntriangleright", [0x22eb], false⟩,
  ⟨"ntrianglerighteq", [0x22ed], false⟩, ⟨"nu", [0x3bd], false⟩, ⟨"num", [0x23], false⟩,
  ⟨"numero", [0x2116], false⟩, ⟨"numsp", [0x2007], false⟩, ⟨"nvDash", [0x22ad], false⟩,
  ⟨"nvHarr", [0x2904], false⟩, ⟨"nvap", [0x224d, 0x20d2], false⟩, ⟨"nvdash", [0x22ac], false⟩,
  ⟨"nvge", [0x2265, 0x20d2], false⟩, ⟨"nvgt", [0x3e, 0x20d2], false⟩, ⟨"nvinfin", [0x29de], false⟩,
  ⟨"nvlArr", [0x2902], false⟩, ⟨"nvle", [0x2264, 0x20d2], false⟩, ⟨"nvlt", [0x3c, 0x20d2], false⟩,
  ⟨"nvltrie", [0x22b4, 0x20d2], false⟩, ⟨"nvrArr", [0x2903], false⟩,
  ⟨"nvrtrie", [0x22b5, 0x20d2], false⟩, ⟨"nvsim", [0x223c, 0x20d2], false⟩,
  ⟨"nwArr", [0x21d6], false⟩, ⟨"nwarhk", [0x2923], false⟩, ⟨"nwarr", [0x2196], false⟩,
  ⟨"nwarrow", [0x2196], false⟩, ⟨"nwnear", [0x2927], false⟩]

def smallONames : List NamedCharacter := [
  ⟨"oS", [0x24c8], false⟩, ⟨"oacute", [0xf3], true⟩, ⟨"oast", [0x229b], false⟩,
  ⟨"ocir", [0x229a], false⟩, ⟨"ocirc", [0xf4], true⟩, ⟨"ocy", [0x43e], false⟩,
  ⟨"odash", [0x229d], false⟩, ⟨"odblac", [0x151], false⟩, ⟨"odiv", [0x2a38], false⟩,
  ⟨"odot", [0x2299], false⟩, ⟨"odsold", [0x29bc], false⟩, ⟨"oelig", [0x153], false⟩,
  ⟨"ofcir", [0x29bf], false⟩, ⟨"ofr", [0x1d52c], false⟩, ⟨"ogon", [0x2db], false⟩,
  ⟨"ograve", [0xf2], true⟩, ⟨"ogt", [0x29c1], false⟩, ⟨"ohbar", [0x29b5], false⟩,
  ⟨"ohm", [0x3a9], false⟩, ⟨"oint", [0x222e], false⟩, ⟨"olarr", [0x21ba], false⟩,
  ⟨"olcir", [0x29be], false⟩, ⟨"olcross", [0x29bb], false⟩, ⟨"oline", [0x203e], false⟩,
  ⟨"olt", [0x29c0], false⟩, ⟨"omacr", [0x14d], false⟩, ⟨"omega", [0x3c9], false⟩,
  ⟨"omicron", [0x3bf], false⟩, ⟨"omid", [0x29b6], false⟩, ⟨"ominus", [0x2296], false⟩,
  ⟨"oopf", [0x1d560], false⟩, ⟨"opar", [0x29b7], false⟩, ⟨"operp", [0x29b9], false⟩,
  ⟨"oplus", [0x2295], false⟩, ⟨"or", [0x2228], false⟩, ⟨"orarr", [0x21bb], false⟩,
  ⟨"ord", [0x2a5d], false⟩, ⟨"order", [0x2134], false⟩, ⟨"orderof", [0x2134], false⟩,
  ⟨"ordf", [0xaa], true⟩, ⟨"ordm", [0xba], true⟩, ⟨"origof", [0x22b6], false⟩,
  ⟨"oror", [0x2a56], false⟩, ⟨"orslope", [0x2a57], false⟩, ⟨"orv", [0x2a5b], false⟩,
  ⟨"oscr", [0x2134], false⟩, ⟨"oslash", [0xf8], true⟩, ⟨"osol", [0x2298], false⟩,
  ⟨"otilde", [0xf5], true⟩, ⟨"otimes", [0x2297], false⟩, ⟨"otimesas", [0x2a36], false⟩,
  ⟨"ouml", [0xf6], true⟩, ⟨"ovbar", [0x233d], false⟩]

def smallPNames : List NamedCharacter := [
  ⟨"par", [0x2225], false⟩, ⟨"para", [0xb6], true⟩, ⟨"parallel", [0x2225], false⟩,
  ⟨"parsim", [0x2af3], false⟩, ⟨"parsl", [0x2afd], false⟩, ⟨"part", [0x2202], false⟩,
  ⟨"pcy", [0x43f], false⟩, ⟨"percnt", [0x25], false⟩, ⟨"period", [0x2e], false⟩,
  ⟨"permil", [0x2030], false⟩, ⟨"perp", [0x22a5], false⟩, ⟨"pertenk", [0x2031], false⟩,
  ⟨"pfr", [0x1d52d], false⟩, ⟨"phi", [0x3c6], false⟩, ⟨"phiv", [0x3d5], false⟩,
  ⟨"phmmat", [0x2133], false⟩, ⟨"phone", [0x260e], false⟩, ⟨"pi", [0x3c0], false⟩,
  ⟨"pitchfork", [0x22d4], false⟩, ⟨"piv", [0x3d6], false⟩, ⟨"planck", [0x210f], false⟩,
  ⟨"planckh", [0x210e], false⟩, ⟨"plankv", [0x210f], false⟩, ⟨"plus", [0x2b], false⟩,
  ⟨"plusacir", [0x2a23], false⟩, ⟨"plusb", [0x229e], false⟩, ⟨"pluscir", [0x2a22], false⟩,
  ⟨"plusdo", [0x2214], false⟩, ⟨"plusdu", [0x2a25], false⟩, ⟨"pluse", [0x2a72], false⟩,
  ⟨"plusmn", [0xb1], true⟩, ⟨"plussim", [0x2a26], false⟩, ⟨"plustwo", [0x2a27], false⟩,
  ⟨"pm", [0xb1], false⟩, ⟨"pointint", [0x2a15], false⟩, ⟨"popf", [0x1d561], false⟩,
  ⟨"pound", [0xa3], true⟩, ⟨"pr", [0x227a], false⟩, ⟨"prE", [0x2ab3], false⟩,
  ⟨"prap", [0x2ab7], false⟩, ⟨"prcue", [0x227c], false⟩, ⟨"pre", [0x2aaf], false⟩,
  ⟨"prec", [0x227a], false⟩, ⟨"precapprox", [0x2ab7], false⟩, ⟨"preccurlyeq", [0x227c], false⟩,
  ⟨"preceq", [0x2aaf], false⟩, ⟨"precnapprox", [0x2ab9], false⟩, ⟨"precneqq", [0x2ab5], false⟩,
  ⟨"precnsim", [0x22e8], false⟩, ⟨"precsim", [0x227e], false⟩, ⟨"prime", [0x2032], false⟩,
  ⟨"primes", [0x2119], false⟩, ⟨"prnE", [0x2ab5], false⟩, ⟨"prnap", [0x2ab9], false⟩,
  ⟨"prnsim", [0x22e8], false⟩, ⟨"prod", [0x220f], false⟩, ⟨"profalar", [0x232e], false⟩,
  ⟨"profline", [0x2312], false⟩, ⟨"profsurf", [0x2313], false⟩, ⟨"prop", [0x221d], false⟩,
  ⟨"propto", [0x221d], false⟩, ⟨"prsim", [0x227e], false⟩, ⟨"prurel", [0x22b0], false⟩,
  ⟨"pscr", [0x1d4c5], false⟩, ⟨"psi", [0x3c8], false⟩, ⟨"puncsp", [0x2008], false⟩]

def smallQNames : List NamedCharacter := [
  ⟨"qfr", [0x1d52e], false⟩, ⟨"qint", [0x2a0c], false⟩, ⟨"qopf", [0x1d562], false⟩,
  ⟨"qprime", [0x2057], false⟩, ⟨"qscr", [0x1d4c6], false⟩, ⟨"quaternions", [0x210d], false⟩,
  ⟨"quatint", [0x2a16], false⟩, ⟨"quest", [0x3f], false⟩, ⟨"questeq", [0x225f], false⟩,
  ⟨"quot", [0x22], true⟩]

def smallRNames : List NamedCharacter := [
  ⟨"rAarr", [0x21db], false⟩, ⟨"rArr", [0x21d2], false⟩, ⟨"rAtail", [0x291c], false⟩,
  ⟨"rBarr", [0x290f], false⟩, ⟨"rHar", [0x2964], false⟩, ⟨"race", [0x223d, 0x331], false⟩,
  ⟨"racute", [0x155], false⟩, ⟨"radic", [0x221a], false⟩, ⟨"raemptyv", [0x29b3], false⟩,
  ⟨"rang", [0x27e9], false⟩, ⟨"rangd", [0x2992], false⟩, ⟨"range", [0x29a5], false⟩,
  ⟨"rangle", [0x27e9], false⟩, ⟨"raquo", [0xbb], true⟩, ⟨"rarr", [0x2192], false⟩,
  ⟨"rarrap", [0x2975], false⟩, ⟨"rarrb", [0x21e5], false⟩, ⟨"rarrbfs", [0x2920], false⟩,
  ⟨"rarrc", [0x2933], false⟩, ⟨"rarrfs", [0x291e], false⟩, ⟨"rarrhk", [0x21aa], false⟩,
  ⟨"rarrlp", [0x21ac], false⟩, ⟨"rarrpl", [0x2945], false⟩, ⟨"rarrsim", [0x2974], false⟩,
  ⟨"rarrtl", [0x21a3], false⟩, ⟨"rarrw", [0x219d], false⟩, ⟨"ratail", [0x291a], false⟩,
  ⟨"ratio", [0x2236], false⟩, ⟨"rationals", [0x211a], false⟩, ⟨"rbarr", [0x290d], false⟩,
  ⟨"rbbrk", [0x2773], false⟩, ⟨"rbrace", [0x7d], false⟩, ⟨"rbrack", [0x5d], false⟩,
  ⟨"rbrke", [0x298c], false⟩, ⟨"rbrksld", [0x298e], false⟩, ⟨"rbrkslu", [0x2990], false⟩,
  ⟨"rcaron", [0x159], false⟩, ⟨"rcedil", [0x157], false⟩, ⟨"rceil", [0x2309], false⟩,
  ⟨"rcub", [0x7d], false⟩, ⟨"rcy", [0x440], false⟩, ⟨"rdca", [0x2937], false⟩,
  ⟨"rdldhar", [0x2969], false⟩, ⟨"rdquo", [0x201d], false⟩, ⟨"rdquor", [0x201d], false⟩,
  ⟨"rdsh", [0x21b3], false⟩, ⟨"real", [0x211c], false⟩, ⟨"realine", [0x211b], false⟩,
  ⟨"realpart", [0x211c], false⟩, ⟨"reals", [0x211d], false⟩, ⟨"rect", [0x25ad], false⟩,
  ⟨"reg", [0xae], true⟩, ⟨"rfisht", [0x297d], false⟩, ⟨"rfloor", [0x230b], false⟩,
  ⟨"rfr", [0x1d52f], false⟩, ⟨"rhard", [0x21c1], false⟩, ⟨"rharu", [0x21c0], false⟩,
  ⟨"rharul", [0x296c], false⟩, ⟨"rho", [0x3c1], false⟩, ⟨"rhov", [0x3f1], false⟩,
  ⟨"rightarrow", [0x2192], false⟩, ⟨"rightarrowtail", [0x21a3], false⟩,
  ⟨"rightharpoondown", [0x21c1], false⟩, ⟨"rightharpoonup", [0x21c0], false⟩,
  ⟨"rightleftarrows", [0x21c4], false⟩, ⟨"rightleftharpoons", [0x21cc], false⟩,
  ⟨"rightrightarrows", [0x21c9], false⟩, ⟨"rightsquigarrow", [0x219d], false⟩,
  ⟨"rightthreetimes", [0x22cc], false⟩, ⟨"ring", [0x2da], false⟩,
  ⟨"risingdotseq", [0x2253], false⟩, ⟨"rlarr", [0x21c4], false⟩, ⟨"rlhar", [0x21cc], false⟩,
  ⟨"rlm", [0x200f], false⟩, ⟨"rmoust", [0x23b1], false⟩, ⟨"rmoustache", [0x23b1], false⟩,
  ⟨"rnmid", [0x2aee], false⟩, ⟨"roang", [0x27ed], false⟩, ⟨"roarr", [0x21fe], false⟩,
  ⟨"robrk", [0x27e7], false⟩, ⟨"ropar", [0x2986], false⟩, ⟨"ropf", [0x1d563], false⟩,
  ⟨"roplus", [0x2a2e], false⟩, ⟨"rotimes", [0x2a35], false⟩, ⟨"rpar", [0x29], false⟩,
  ⟨"rpargt", [0x2994], false⟩, ⟨"rppolint", [0x2a12], false⟩, ⟨"rrarr", [0x21c9], false⟩,
  ⟨"rsaquo", [0x203a], false⟩, ⟨"rscr", [0x1d4c7], false⟩, ⟨"rsh", [0x21b1], false⟩,
  ⟨"rsqb", [0x5d], false⟩, ⟨"rsquo", [0x2019], false⟩, ⟨"rsquor", [0x2019], false⟩,
  ⟨"rthree", [0x22cc], false⟩, ⟨"rtimes", [0x22ca], false⟩, ⟨"rtri", [0x25b9], false⟩,
  ⟨"rtrie", [0x22b5], false⟩, ⟨"rtrif", [0x25b8], false⟩, ⟨"rtriltri", [0x29ce], false⟩,
  ⟨"ruluhar", [0x2968], false⟩, ⟨"rx", [0x211e], false⟩]

def smallSNames : List NamedCharacter := [
  ⟨"sacute", [0x15b], false⟩, ⟨"sbquo", [0x201a], false⟩, ⟨"sc", [0x227b], false⟩,
  ⟨"scE", [0x2ab4], false⟩, ⟨"scap", [0x2ab8], false⟩, ⟨"scaron", [0x161], false⟩,
  ⟨"sccue", [0x227d], false⟩, ⟨"sce", [0x2ab0], false⟩, ⟨"scedil", [0x15f], false⟩,
  ⟨"scirc", [0x15d], false⟩, ⟨"scnE", [0x2ab6], false⟩, ⟨"scnap", [0x2aba], false⟩,
  ⟨"scnsim", [0x22e9], false⟩, ⟨"scpolint", [0x2a13], false⟩, ⟨"scsim", [0x227f], false⟩,
  ⟨"scy", [0x441], false⟩, ⟨"sdot", [0x22c5], false⟩, ⟨"sdotb", [0x22a1], false⟩,
  ⟨"sdote", [0x2a66], false⟩, ⟨"seArr", [0x21d8], false⟩, ⟨"searhk", [0x2925], false⟩,
  ⟨"searr", [0x2198], false⟩, ⟨"searrow", [0x2198], false⟩, ⟨"sect", [0xa7], true⟩,
  ⟨"semi", [0x3b], false⟩, ⟨"seswar", [0x2929], false⟩, ⟨"setminus", [0x2216], false⟩,
  ⟨"setmn", [0x2216], false⟩, ⟨"sext", [0x2736], false⟩, ⟨"sfr", [0x1d530], false⟩,
  ⟨"sfrown", [0x2322], false⟩, ⟨"sharp", [0x266f], false⟩, ⟨"shchcy", [0x449], false⟩,
  ⟨"shcy", [0x448], false⟩, ⟨"shortmid", [0x2223], false⟩, ⟨"shortparallel", [0x2225], false⟩,
  ⟨"shy", [0xad], true⟩, ⟨"sigma", [0x3c3], false⟩, ⟨"sigmaf", [0x3c2], false⟩,
  ⟨"sigmav", [0x3c2], false⟩, ⟨"sim", [0x223c], false⟩, ⟨"simdot", [0x2a6a], false⟩,
  ⟨"sime", [0x2243], false⟩, ⟨"simeq", [0x2243], false⟩, ⟨"simg", [0x2a9e], false⟩,
  ⟨"simgE", [0x2aa0], false⟩, ⟨"siml", [0x2a9d], false⟩, ⟨"simlE", [0x2a9f], false⟩,
  ⟨"simne", [0x2246], false⟩, ⟨"simplus", [0x2a24], false⟩, ⟨"simrarr", [0x2972], false⟩,
  ⟨"slarr", [0x2190], false⟩, ⟨"smallsetminus", [0x2216], false⟩, ⟨"smashp", [0x2a33], false⟩,
  ⟨"smeparsl", [0x29e4], false⟩, ⟨"smid", [0x2223], false⟩, ⟨"smile", [0x2323], false⟩,
  ⟨"smt", [0x2aaa], false⟩, ⟨"smte", [0x2aac], false⟩, ⟨"smtes", [0x2aac, 0xfe00], false⟩,
  ⟨"softcy", [0x44c], false⟩, ⟨"sol", [0x2f], false⟩, ⟨"solb", [0x29c4], false⟩,
  ⟨"solbar", [0x233f], false⟩, ⟨"sopf", [0x1d564], false⟩, ⟨"spades", [0x2660], false⟩,
  ⟨"spadesuit", [0x2660], false⟩, ⟨"spar", [0x2225], false⟩, ⟨"sqcap", [0x2293], false⟩,
  ⟨"sqcaps", [0x2293, 0xfe00], false⟩, ⟨"sqcup", [0x2294], false⟩,
  ⟨"sqcups", [0x2294, 0xfe00], false⟩, ⟨"sqsub", [0x228f], false⟩, ⟨"sqsube", [0x2291], false⟩,
  ⟨"sqsubset", [0x228f], false⟩, ⟨"sqsubseteq", [0x2291], false⟩, ⟨"sqsup", [0x2290], false⟩,
  ⟨"sqsupe", [0x2292], false⟩, ⟨"sqsupset", [0x2290], false⟩, ⟨"sqsupseteq", [0x2292], false⟩,
  ⟨"squ", [0x25a1], false⟩, ⟨"square", [0x25a1], false⟩, ⟨"squarf", [0x25aa], false⟩,
  ⟨"squf", [0x25aa], false⟩, ⟨"srarr", [0x2192], false⟩, ⟨"sscr", [0x1d4c8], false⟩,
  ⟨"ssetmn", [0x2216], false⟩, ⟨"ssmile", [0x2323], false⟩, ⟨"sstarf", [0x22c6], false⟩,
  ⟨"star", [0x2606], false⟩, ⟨"starf", [0x2605], false⟩, ⟨"straightepsilon", [0x3f5], false⟩,
  ⟨"straightphi", [0x3d5], false⟩, ⟨"strns", [0xaf], false⟩, ⟨"sub", [0x2282], false⟩,
  ⟨"subE", [0x2ac5], false⟩, ⟨"subdot", [0x2abd], false⟩, ⟨"sube", [0x2286], false⟩,
  ⟨"subedot", [0x2ac3], false⟩, ⟨"submult", [0x2ac1], false⟩, ⟨"subnE", [0x2acb], false⟩,
  ⟨"subne", [0x228a], false⟩, ⟨"subplus", [0x2abf], false⟩, ⟨"subrarr", [0x2979], false⟩,
  ⟨"subset", [0x2282], false⟩, ⟨"subseteq", [0x2286], false⟩, ⟨"subseteqq", [0x2ac5], false⟩,
  ⟨"subsetneq", [0x228a], false⟩, ⟨"subsetneqq", [0x2acb], false⟩, ⟨"subsim", [0x2ac7], false⟩,
  ⟨"subsub", [0x2ad5], false⟩, ⟨"subsup", [0x2ad3], false⟩, ⟨"succ", [0x227b], false⟩,
  ⟨"succapprox", [0x2ab8], false⟩, ⟨"succcurlyeq", [0x227d], false⟩, ⟨"succeq", [0x2ab0], false⟩,
  ⟨"succnapprox", [0x2aba], false⟩, ⟨"succneqq", [0x2ab6], false⟩, ⟨"succnsim", [0x22e9], false⟩,
  ⟨"succsim", [0x227f], false⟩, ⟨"sum", [0x2211], false⟩, ⟨"sung", [0x266a], false⟩,
  ⟨"sup", [0x2283], false⟩, ⟨"sup1", [0xb9], true⟩, ⟨"sup2", [0xb2], true⟩, ⟨"sup3", [0xb3], true⟩,
  ⟨"supE", [0x2ac6], false⟩, ⟨"supdot", [0x2abe], false⟩, ⟨"supdsub", [0x2ad8], false⟩,
  ⟨"supe", [0x2287], false⟩, ⟨"supedot", [0x2ac4], false⟩, ⟨"suphsol", [0x27c9], false⟩,
  ⟨"suphsub", [0x2ad7], false⟩, ⟨"suplarr", [0x297b], false⟩, ⟨"supmult", [0x2ac2], false⟩,
  ⟨"supnE", [0x2acc], false⟩, ⟨"supne", [0x228b], false⟩, ⟨"supplus", [0x2ac0], false⟩,
  ⟨"supset", [0x2283], false⟩, ⟨"supseteq", [0x2287], false⟩, ⟨"supseteqq", [0x2ac6], false⟩,
  ⟨"supsetneq", [0x228b], false⟩, ⟨"supsetneqq", [0x2acc], false⟩, ⟨"supsim", [0x2ac8], false⟩,
  ⟨"supsub", [0x2ad4], false⟩, ⟨"supsup", [0x2ad6], false⟩, ⟨"swArr", [0x21d9], false⟩,
  ⟨"swarhk", [0x2926], false⟩, ⟨"swarr", [0x2199], false⟩, ⟨"swarrow", [0x2199], false⟩,
  ⟨"swnwar", [0x292a], false⟩, ⟨"szlig", [0xdf], true⟩]

def smallTNames : List NamedCharacter := [
  ⟨"target", [0x2316], false⟩, ⟨"tau", [0x3c4], false⟩, ⟨"tbrk", [0x23b4], false⟩,
  ⟨"tcaron", [0x165], false⟩, ⟨"tcedil", [0x163], false⟩, ⟨"tcy", [0x442], false⟩,
  ⟨"tdot", [0x20db], false⟩, ⟨"telrec", [0x2315], false⟩, ⟨"tfr", [0x1d531], false⟩,
  ⟨"there4", [0x2234], false⟩, ⟨"therefore", [0x2234], false⟩, ⟨"theta", [0x3b8], false⟩,
  ⟨"thetasym", [0x3d1], false⟩, ⟨"thetav", [0x3d1], false⟩, ⟨"thickapprox", [0x2248], false⟩,
  ⟨"thicksim", [0x223c], false⟩, ⟨"thinsp", [0x2009], false⟩, ⟨"thkap", [0x2248], false⟩,
  ⟨"thksim", [0x223c], false⟩, ⟨"thorn", [0xfe], true⟩, ⟨"tilde", [0x2dc], false⟩,
  ⟨"times", [0xd7], true⟩, ⟨"timesb", [0x22a0], false⟩, ⟨"timesbar", [0x2a31], false⟩,
  ⟨"timesd", [0x2a30], false⟩, ⟨"tint", [0x222d], false⟩, ⟨"toea", [0x2928], false⟩,
  ⟨"top", [0x22a4], false⟩, ⟨"topbot", [0x2336], false⟩, ⟨"topcir", [0x2af1], false⟩,
  ⟨"topf", [0x1d565], false⟩, ⟨"topfork", [0x2ada], false⟩, ⟨"tosa", [0x2929], false⟩,
  ⟨"tprime", [0x2034], false⟩, ⟨"trade", [0x2122], false⟩, ⟨"triangle", [0x25b5], false⟩,
  ⟨"triangledown", [0x25bf], false⟩, ⟨"triangleleft", [0x25c3], false⟩,
  ⟨"trianglelefteq", [0x22b4], false⟩, ⟨"triangleq", [0x225c], false⟩,
  ⟨"triangleright", [0x25b9], false⟩, ⟨"trianglerighteq", [0x22b5], false⟩,
  ⟨"tridot", [0x25ec], false⟩, ⟨"trie", [0x225c], false⟩, ⟨"triminus", [0x2a3a], false⟩,
  ⟨"triplus", [0x2a39], false⟩, ⟨"trisb", [0x29cd], false⟩, ⟨"tritime", [0x2a3b], false⟩,
  ⟨"trpezium", [0x23e2], false⟩, ⟨"tscr", [0x1d4c9], false⟩, ⟨"tscy", [0x446], false⟩,
  ⟨"tshcy", [0x45b], false⟩, ⟨"tstrok", [0x167], false⟩, ⟨"twixt", [0x226c], false⟩,
  ⟨"twoheadleftarrow", [0x219e], false⟩, ⟨"twoheadrightarrow", [0x21a0], false⟩]

def smallUNames : List NamedCharacter := [
  ⟨"uArr", [0x21d1], false⟩, ⟨"uHar", [0x2963], false⟩, ⟨"uacute", [0xfa], true⟩,
  ⟨"uarr", [0x2191], false⟩, ⟨"ubrcy", [0x45e], false⟩, ⟨"ubreve", [0x16d], false⟩,
  ⟨"ucirc", [0xfb], true⟩, ⟨"ucy", [0x443], false⟩, ⟨"udarr", [0x21c5], false⟩,
  ⟨"udblac", [0x171], false⟩, ⟨"udhar", [0x296e], false⟩, ⟨"ufisht", [0x297e], false⟩,
  ⟨"ufr", [0x1d532], false⟩, ⟨"ugrave", [0xf9], true⟩, ⟨"uharl", [0x21bf], false⟩,
  ⟨"uharr", [0x21be], false⟩, ⟨"uhblk", [0x2580], false⟩, ⟨"ulcorn", [0x231c], false⟩,
  ⟨"ulcorner", [0x231c], false⟩, ⟨"ulcrop", [0x230f], false⟩, ⟨"ultri", [0x25f8], false⟩,
  ⟨"umacr", [0x16b], false⟩, ⟨"uml", [0xa8], true⟩, ⟨"uogon", [0x173], false⟩,
  ⟨"uopf", [0x1d566], false⟩, ⟨"uparrow", [0x2191], false⟩, ⟨"updownarrow", [0x2195], false⟩,
  ⟨"upharpoonleft", [0x21bf], false⟩, ⟨"upharpoonright", [0x21be], false⟩,
  ⟨"uplus", [0x228e], false⟩, ⟨"upsi", [0x3c5], false⟩, ⟨"upsih", [0x3d2], false⟩,
  ⟨"upsilon", [0x3c5], false⟩, ⟨"upuparrows", [0x21c8], false⟩, ⟨"urcorn", [0x231d], false⟩,
  ⟨"urcorner", [0x231d], false⟩, ⟨"urcrop", [0x230e], false⟩, ⟨"uring", [0x16f], false⟩,
  ⟨"urtri", [0x25f9], false⟩, ⟨"uscr", [0x1d4ca], false⟩, ⟨"utdot", [0x22f0], false⟩,
  ⟨"utilde", [0x169], false⟩, ⟨"utri", [0x25b5], false⟩, ⟨"utrif", [0x25b4], false⟩,
  ⟨"uuarr", [0x21c8], false⟩, ⟨"uuml", [0xfc], true⟩, ⟨"uwangle", [0x29a7], false⟩]

def smallVNames : List NamedCharacter := [
  ⟨"vArr", [0x21d5], false⟩, ⟨"vBar", [0x2ae8], false⟩, ⟨"vBarv", [0x2ae9], false⟩,
  ⟨"vDash", [0x22a8], false⟩, ⟨"vangrt", [0x299c], false⟩, ⟨"varepsilon", [0x3f5], false⟩,
  ⟨"varkappa", [0x3f0], false⟩, ⟨"varnothing", [0x2205], false⟩, ⟨"varphi", [0x3d5], false⟩,
  ⟨"varpi", [0x3d6], false⟩, ⟨"varpropto", [0x221d], false⟩, ⟨"varr", [0x2195], false⟩,
  ⟨"varrho", [0x3f1], false⟩, ⟨"varsigma", [0x3c2], false⟩,
  ⟨"varsubsetneq", [0x228a, 0xfe00], false⟩, ⟨"varsubsetneqq", [0x2acb, 0xfe00], false⟩,
  ⟨"varsupsetneq", [0x228b, 0xfe00], false⟩, ⟨"varsupsetneqq", [0x2acc, 0xfe00], false⟩,
  ⟨"vartheta", [0x3d1], false⟩, ⟨"vartriangleleft", [0x22b2], false⟩,
  ⟨"vartriangleright", [0x22b3], false⟩, ⟨"vcy", [0x432], false⟩, ⟨"vdash", [0x22a2], false⟩,
  ⟨"vee", [0x2228], false⟩, ⟨"veebar", [0x22bb], false⟩, ⟨"veeeq", [0x225a], false⟩,
  ⟨"vellip", [0x22ee], false⟩, ⟨"verbar", [0x7c], false⟩, ⟨"vert", [0x7c], false⟩,
  ⟨"vfr", [0x1d533], false⟩, ⟨"vltri", [0x22b2], false⟩, ⟨"vnsub", [0x2282, 0x20d2], false⟩,
  ⟨"vnsup", [0x2283, 0x20d2], false⟩, ⟨"vopf", [0x1d567], false⟩, ⟨"vprop", [0x221d], false⟩,
  ⟨"vrtri", [0x22b3], false⟩, ⟨"vscr", [0x1d4cb], false⟩, ⟨"vsubnE", [0x2acb, 0xfe00], false⟩,
  ⟨"vsubne", [0x228a, 0xfe00], false⟩, ⟨"vsupnE", [0x2acc, 0xfe00], false⟩,
  ⟨"vsupne", [0x228b, 0xfe00], false⟩, ⟨"vzigzag", [0x299a], false⟩]

def smallWNames : List NamedCharacter := [
  ⟨"wcirc", [0x175], false⟩, ⟨"wedbar", [0x2a5f], false⟩, ⟨"wedge", [0x2227], false⟩,
  ⟨"wedgeq", [0x2259], false⟩, ⟨"weierp", [0x2118], false⟩, ⟨"wfr", [0x1d534], false⟩,
  ⟨"wopf", [0x1d568], false⟩, ⟨"wp", [0x2118], false⟩, ⟨"wr", [0x2240], false⟩,
  ⟨"wreath", [0x2240], false⟩, ⟨"wscr", [0x1d4cc], false⟩]

def smallXNames : List NamedCharacter := [
  ⟨"xcap", [0x22c2], false⟩, ⟨"xcirc", [0x25ef], false⟩, ⟨"xcup", [0x22c3], false⟩,
  ⟨"xdtri", [0x25bd], false⟩, ⟨"xfr", [0x1d535], false⟩, ⟨"xhArr", [0x27fa], false⟩,
  ⟨"xharr", [0x27f7], false⟩, ⟨"xi", [0x3be], false⟩, ⟨"xlArr", [0x27f8], false⟩,
  ⟨"xlarr", [0x27f5], false⟩, ⟨"xmap", [0x27fc], false⟩, ⟨"xnis", [0x22fb], false⟩,
  ⟨"xodot", [0x2a00], false⟩, ⟨"xopf", [0x1d569], false⟩, ⟨"xoplus", [0x2a01], false⟩,
  ⟨"xotime", [0x2a02], false⟩, ⟨"xrArr", [0x27f9], false⟩, ⟨"xrarr", [0x27f6], false⟩,
  ⟨"xscr", [0x1d4cd], false⟩, ⟨"xsqcup", [0x2a06], false⟩, ⟨"xuplus", [0x2a04], false⟩,
  ⟨"xutri", [0x25b3], false⟩, ⟨"xvee", [0x22c1], false⟩, ⟨"xwedge", [0x22c0], false⟩]

def smallYNames : List NamedCharacter := [
  ⟨"yacute", [0xfd], true⟩, ⟨"yacy", [0x44f], false⟩, ⟨"ycirc", [0x177], false⟩,
  ⟨"ycy", [0x44b], false⟩, ⟨"yen", [0xa5], true⟩, ⟨"yfr", [0x1d536], false⟩,
  ⟨"yicy", [0x457], false⟩, ⟨"yopf", [0x1d56a], false⟩, ⟨"yscr", [0x1d4ce], false⟩,
  ⟨"yucy", [0x44e], false⟩, ⟨"yuml", [0xff], true⟩]

def smallZNames : List NamedCharacter := [
  ⟨"zacute", [0x17a], false⟩, ⟨"zcaron", [0x17e], false⟩, ⟨"zcy", [0x437], false⟩,
  ⟨"zdot", [0x17c], false⟩, ⟨"zeetrf", [0x2128], false⟩, ⟨"zeta", [0x3b6], false⟩,
  ⟨"zfr", [0x1d537], false⟩, ⟨"zhcy", [0x436], false⟩, ⟨"zigrarr", [0x21dd], false⟩,
  ⟨"zopf", [0x1d56b], false⟩, ⟨"zscr", [0x1d4cf], false⟩, ⟨"zwj", [0x200d], false⟩,
  ⟨"zwnj", [0x200c], false⟩]

/-- The names that begin with a given letter. -/
def namesFrom (first : Char) : List NamedCharacter :=
  match first with
  | 'A' => capitalANames
  | 'B' => capitalBNames
  | 'C' => capitalCNames
  | 'D' => capitalDNames
  | 'E' => capitalENames
  | 'F' => capitalFNames
  | 'G' => capitalGNames
  | 'H' => capitalHNames
  | 'I' => capitalINames
  | 'J' => capitalJNames
  | 'K' => capitalKNames
  | 'L' => capitalLNames
  | 'M' => capitalMNames
  | 'N' => capitalNNames
  | 'O' => capitalONames
  | 'P' => capitalPNames
  | 'Q' => capitalQNames
  | 'R' => capitalRNames
  | 'S' => capitalSNames
  | 'T' => capitalTNames
  | 'U' => capitalUNames
  | 'V' => capitalVNames
  | 'W' => capitalWNames
  | 'X' => capitalXNames
  | 'Y' => capitalYNames
  | 'Z' => capitalZNames
  | 'a' => smallANames
  | 'b' => smallBNames
  | 'c' => smallCNames
  | 'd' => smallDNames
  | 'e' => smallENames
  | 'f' => smallFNames
  | 'g' => smallGNames
  | 'h' => smallHNames
  | 'i' => smallINames
  | 'j' => smallJNames
  | 'k' => smallKNames
  | 'l' => smallLNames
  | 'm' => smallMNames
  | 'n' => smallNNames
  | 'o' => smallONames
  | 'p' => smallPNames
  | 'q' => smallQNames
  | 'r' => smallRNames
  | 's' => smallSNames
  | 't' => smallTNames
  | 'u' => smallUNames
  | 'v' => smallVNames
  | 'w' => smallWNames
  | 'x' => smallXNames
  | 'y' => smallYNames
  | 'z' => smallZNames
  | _ => []

end Pruner.Markup
