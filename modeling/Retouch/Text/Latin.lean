/-!
# Plain Latin spelling

The compatibility decomposition of a character, reduced to its ASCII part: an accented letter loses
its accents, a wide or ornamental letter becomes the plain one, a ligature or fraction is spelled
out, and a character without an ASCII part disappears.
-/

namespace Retouch.Text

/-- Runs of consecutive codes whose ASCII parts are single characters: the first code, and the
parts in order. -/
def latinRuns : List (Nat × String) := [
  (0xA0, " "), (0xA8, " "), (0xAA, "a"), (0xAF, " "), (0xB2, "23 "), (0xB8, " 1o"),
  (0xC0, "AAAAAA"), (0xC7, "CEEEEIIII"), (0xD1, "NOOOOO"), (0xD9, "UUUUY"), (0xE0, "aaaaaa"),
  (0xE7, "ceeeeiiii"), (0xF1, "nooooo"), (0xF9, "uuuuy"), (0xFF, "yAaAaAaCcCcCcCcDd"),
  (0x112, "EeEeEeEeEeGgGgGgGgHh"), (0x128, "IiIiIiIiI"), (0x134, "JjKk"), (0x139, "LlLlLlLl"),
  (0x143, "NnNnNnn"), (0x14C, "OoOoOo"), (0x154, "RrRrRrSsSsSsSsTtTt"),
  (0x168, "UuUuUuUuUuUuWwYyYZzZzZzs"), (0x1A0, "Oo"), (0x1AF, "Uu"), (0x1CD, "AaIiOoUuUuUuUuUu"),
  (0x1DE, "AaAa"), (0x1E6, "GgKkOoOo"), (0x1F0, "j"), (0x1F4, "Gg"), (0x1F8, "NnAa"),
  (0x200, "AaAaEeEeIiIiOoOoRrRrUuUuSsTt"), (0x21E, "Hh"), (0x226, "AaEeOoOoOoOoYy"), (0x2B0, "h"),
  (0x2B2, "jr"), (0x2B7, "wy"), (0x2D8, "      "), (0x2E1, "lsx"), (0x37A, " "), (0x37E, ";"),
  (0x384, "  "), (0x1D2C, "A"), (0x1D2E, "B"), (0x1D30, "DE"), (0x1D33, "GHIJKLMN"), (0x1D3C, "O"),
  (0x1D3E, "PRTUWa"), (0x1D47, "bde"), (0x1D4D, "g"), (0x1D4F, "km"), (0x1D52, "o"),
  (0x1D56, "ptu"), (0x1D5B, "v"), (0x1D62, "iruv"), (0x1D9C, "c"), (0x1DA0, "f"), (0x1DBB, "z"),
  (0x1E00, "AaBbBbBbCcDdDdDdDdDdEeEeEeEeEeFfGgHhHhHhHhHhIiIiKkKkKkLlLlLlLlMmMmMmNnNnNnNnOoOoOoOoPpPpRrRrRrRrSsSsSsSsSsTtTtTtTtUuUuUuUuUuVvVvWwWwWwWwWwXxXxYyZzZzZzhtwyas"),
  (0x1EA0, "AaAaAaAaAaAaAaAaAaAaAaAaEeEeEeEeEeEeEeEeIiIiOoOoOoOoOoOoOoOoOoOoOoOoUuUuUuUuUuUuUuYyYyYyYy"),
  (0x1FBD, " "), (0x1FBF, "   "), (0x1FCD, "   "), (0x1FDD, "   "), (0x1FED, "  \x60"),
  (0x1FFD, "  "), (0x2000, "           "), (0x2017, " "), (0x2024, "."), (0x202F, " "),
  (0x203E, " "), (0x205F, " "), (0x2070, "0i"), (0x2074, "456789+"), (0x207C, "=()n0123456789+"),
  (0x208C, "=()"), (0x2090, "aeox"), (0x2095, "hklmnpst"), (0x2102, "CC"), (0x2109, "FgHHHh"),
  (0x2110, "IILl"), (0x2115, "N"), (0x2119, "PQRRR"), (0x2124, "Z"), (0x2128, "Z"),
  (0x212A, "KABC"), (0x212F, "eEF"), (0x2133, "Mo"), (0x2139, "i"), (0x2145, "Ddeij"),
  (0x215F, "1I"), (0x2164, "V"), (0x2169, "X"), (0x216C, "LCDMi"), (0x2174, "v"), (0x2179, "x"),
  (0x217C, "lcdm"), (0x2260, "="), (0x226E, "<>"), (0x2460, "123456789"),
  (0x24B6, "ABCDEFGHIJKLMNOPQRSTUVWXYZabcdefghijklmnopqrstuvwxyz0"), (0x2C7C, "jV"), (0x3000, " "),
  (0x309B, "  "), (0x32C0, "123456789"), (0x3358, "0123456789"), (0x3382, "A"), (0x338C, "Fg"),
  (0x3395, "l"), (0x339B, "m"), (0x33B2, "s"), (0x33B6, "V"), (0x33BC, "W"), (0x33C0, "kM"),
  (0x33E0, "123456789"), (0xA7F2, "CFQ"), (0xFB29, "+"), (0xFC5E, "      "), (0xFDFB, " "),
  (0xFE10, ","), (0xFE13, ":;!?"), (0xFE33, "__()\x7b\x7d"), (0xFE47, "[]    ___,"), (0xFE52, "."),
  (0xFE54, ";:?!"), (0xFE59, "()\x7b\x7d"), (0xFE5F, "#&*+-<>="), (0xFE68, "\\$%@"), (0xFE70, " "),
  (0xFE72, " "), (0xFE74, " "), (0xFE76, " "), (0xFE78, " "), (0xFE7A, " "), (0xFE7C, " "),
  (0xFE7E, " "),
  (0xFF01, "!\"#$%&'()*+,-./0123456789:;<=>?@ABCDEFGHIJKLMNOPQRSTUVWXYZ[\\]^_\x60abcdefghijklmnopqrstuvwxyz\x7b|\x7d~"),
  (0xFFE3, " "), (0x107A5, "q"),
  (0x1D400, "ABCDEFGHIJKLMNOPQRSTUVWXYZabcdefghijklmnopqrstuvwxyzABCDEFGHIJKLMNOPQRSTUVWXYZabcdefg"),
  (0x1D456, "ijklmnopqrstuvwxyzABCDEFGHIJKLMNOPQRSTUVWXYZabcdefghijklmnopqrstuvwxyzA"),
  (0x1D49E, "CD"), (0x1D4A2, "G"), (0x1D4A5, "JK"), (0x1D4A9, "NOPQ"), (0x1D4AE, "STUVWXYZabcd"),
  (0x1D4BB, "f"), (0x1D4BD, "hijklmn"),
  (0x1D4C5, "pqrstuvwxyzABCDEFGHIJKLMNOPQRSTUVWXYZabcdefghijklmnopqrstuvwxyzAB"),
  (0x1D507, "DEFG"), (0x1D50D, "JKLMNOPQ"), (0x1D516, "STUVWXY"),
  (0x1D51E, "abcdefghijklmnopqrstuvwxyzAB"), (0x1D53B, "DEFG"), (0x1D540, "IJKLM"), (0x1D546, "O"),
  (0x1D54A, "STUVWXY"),
  (0x1D552, "abcdefghijklmnopqrstuvwxyzABCDEFGHIJKLMNOPQRSTUVWXYZabcdefghijklmnopqrstuvwxyzABCDEFGHIJKLMNOPQRSTUVWXYZabcdefghijklmnopqrstuvwxyzABCDEFGHIJKLMNOPQRSTUVWXYZabcdefghijklmnopqrstuvwxyzABCDEFGHIJKLMNOPQRSTUVWXYZabcdefghijklmnopqrstuvwxyzABCDEFGHIJKLMNOPQRSTUVWXYZabcdefghijklmnopqrstuvwxyzABCDEFGHIJKLMNOPQRSTUVWXYZabcdefghijklmnopqrstuvwxyz"),
  (0x1D7CE, "01234567890123456789012345678901234567890123456789"), (0x1F12A, "SCR"),
  (0x1F130, "ABCDEFGHIJKLMNOPQRSTUVWXYZ"), (0x1FBF0, "0123456789")]

/-- Codes whose ASCII part is longer. -/
def latinExpansions : List (Nat × String) := [
  (0xBC, "14"), (0xBD, "12"), (0xBE, "34"), (0x132, "IJ"), (0x133, "ij"), (0x1C4, "DZ"),
  (0x1C5, "Dz"), (0x1C6, "dz"), (0x1C7, "LJ"), (0x1C8, "Lj"), (0x1C9, "lj"), (0x1CA, "NJ"),
  (0x1CB, "Nj"), (0x1CC, "nj"), (0x1F1, "DZ"), (0x1F2, "Dz"), (0x1F3, "dz"), (0x2025, ".."),
  (0x2026, "..."), (0x203C, "!!"), (0x2047, "??"), (0x2048, "?!"), (0x2049, "!?"), (0x20A8, "Rs"),
  (0x2100, "a/c"), (0x2101, "a/s"), (0x2105, "c/o"), (0x2106, "c/u"), (0x2116, "No"),
  (0x2120, "SM"), (0x2121, "TEL"), (0x2122, "TM"), (0x213B, "FAX"), (0x2150, "17"), (0x2151, "19"),
  (0x2152, "110"), (0x2153, "13"), (0x2154, "23"), (0x2155, "15"), (0x2156, "25"), (0x2157, "35"),
  (0x2158, "45"), (0x2159, "16"), (0x215A, "56"), (0x215B, "18"), (0x215C, "38"), (0x215D, "58"),
  (0x215E, "78"), (0x2161, "II"), (0x2162, "III"), (0x2163, "IV"), (0x2165, "VI"), (0x2166, "VII"),
  (0x2167, "VIII"), (0x2168, "IX"), (0x216A, "XI"), (0x216B, "XII"), (0x2171, "ii"),
  (0x2172, "iii"), (0x2173, "iv"), (0x2175, "vi"), (0x2176, "vii"), (0x2177, "viii"),
  (0x2178, "ix"), (0x217A, "xi"), (0x217B, "xii"), (0x2189, "03"), (0x2469, "10"), (0x246A, "11"),
  (0x246B, "12"), (0x246C, "13"), (0x246D, "14"), (0x246E, "15"), (0x246F, "16"), (0x2470, "17"),
  (0x2471, "18"), (0x2472, "19"), (0x2473, "20"), (0x2474, "(1)"), (0x2475, "(2)"),
  (0x2476, "(3)"), (0x2477, "(4)"), (0x2478, "(5)"), (0x2479, "(6)"), (0x247A, "(7)"),
  (0x247B, "(8)"), (0x247C, "(9)"), (0x247D, "(10)"), (0x247E, "(11)"), (0x247F, "(12)"),
  (0x2480, "(13)"), (0x2481, "(14)"), (0x2482, "(15)"), (0x2483, "(16)"), (0x2484, "(17)"),
  (0x2485, "(18)"), (0x2486, "(19)"), (0x2487, "(20)"), (0x2488, "1."), (0x2489, "2."),
  (0x248A, "3."), (0x248B, "4."), (0x248C, "5."), (0x248D, "6."), (0x248E, "7."), (0x248F, "8."),
  (0x2490, "9."), (0x2491, "10."), (0x2492, "11."), (0x2493, "12."), (0x2494, "13."),
  (0x2495, "14."), (0x2496, "15."), (0x2497, "16."), (0x2498, "17."), (0x2499, "18."),
  (0x249A, "19."), (0x249B, "20."), (0x249C, "(a)"), (0x249D, "(b)"), (0x249E, "(c)"),
  (0x249F, "(d)"), (0x24A0, "(e)"), (0x24A1, "(f)"), (0x24A2, "(g)"), (0x24A3, "(h)"),
  (0x24A4, "(i)"), (0x24A5, "(j)"), (0x24A6, "(k)"), (0x24A7, "(l)"), (0x24A8, "(m)"),
  (0x24A9, "(n)"), (0x24AA, "(o)"), (0x24AB, "(p)"), (0x24AC, "(q)"), (0x24AD, "(r)"),
  (0x24AE, "(s)"), (0x24AF, "(t)"), (0x24B0, "(u)"), (0x24B1, "(v)"), (0x24B2, "(w)"),
  (0x24B3, "(x)"), (0x24B4, "(y)"), (0x24B5, "(z)"), (0x2A74, "::="), (0x2A75, "=="),
  (0x2A76, "==="), (0x3200, "()"), (0x3201, "()"), (0x3202, "()"), (0x3203, "()"), (0x3204, "()"),
  (0x3205, "()"), (0x3206, "()"), (0x3207, "()"), (0x3208, "()"), (0x3209, "()"), (0x320A, "()"),
  (0x320B, "()"), (0x320C, "()"), (0x320D, "()"), (0x320E, "()"), (0x320F, "()"), (0x3210, "()"),
  (0x3211, "()"), (0x3212, "()"), (0x3213, "()"), (0x3214, "()"), (0x3215, "()"), (0x3216, "()"),
  (0x3217, "()"), (0x3218, "()"), (0x3219, "()"), (0x321A, "()"), (0x321B, "()"), (0x321C, "()"),
  (0x321D, "()"), (0x321E, "()"), (0x3220, "()"), (0x3221, "()"), (0x3222, "()"), (0x3223, "()"),
  (0x3224, "()"), (0x3225, "()"), (0x3226, "()"), (0x3227, "()"), (0x3228, "()"), (0x3229, "()"),
  (0x322A, "()"), (0x322B, "()"), (0x322C, "()"), (0x322D, "()"), (0x322E, "()"), (0x322F, "()"),
  (0x3230, "()"), (0x3231, "()"), (0x3232, "()"), (0x3233, "()"), (0x3234, "()"), (0x3235, "()"),
  (0x3236, "()"), (0x3237, "()"), (0x3238, "()"), (0x3239, "()"), (0x323A, "()"), (0x323B, "()"),
  (0x323C, "()"), (0x323D, "()"), (0x323E, "()"), (0x323F, "()"), (0x3240, "()"), (0x3241, "()"),
  (0x3242, "()"), (0x3243, "()"), (0x3250, "PTE"), (0x3251, "21"), (0x3252, "22"), (0x3253, "23"),
  (0x3254, "24"), (0x3255, "25"), (0x3256, "26"), (0x3257, "27"), (0x3258, "28"), (0x3259, "29"),
  (0x325A, "30"), (0x325B, "31"), (0x325C, "32"), (0x325D, "33"), (0x325E, "34"), (0x325F, "35"),
  (0x32B1, "36"), (0x32B2, "37"), (0x32B3, "38"), (0x32B4, "39"), (0x32B5, "40"), (0x32B6, "41"),
  (0x32B7, "42"), (0x32B8, "43"), (0x32B9, "44"), (0x32BA, "45"), (0x32BB, "46"), (0x32BC, "47"),
  (0x32BD, "48"), (0x32BE, "49"), (0x32BF, "50"), (0x32C9, "10"), (0x32CA, "11"), (0x32CB, "12"),
  (0x32CC, "Hg"), (0x32CD, "erg"), (0x32CE, "eV"), (0x32CF, "LTD"), (0x3362, "10"), (0x3363, "11"),
  (0x3364, "12"), (0x3365, "13"), (0x3366, "14"), (0x3367, "15"), (0x3368, "16"), (0x3369, "17"),
  (0x336A, "18"), (0x336B, "19"), (0x336C, "20"), (0x336D, "21"), (0x336E, "22"), (0x336F, "23"),
  (0x3370, "24"), (0x3371, "hPa"), (0x3372, "da"), (0x3373, "AU"), (0x3374, "bar"), (0x3375, "oV"),
  (0x3376, "pc"), (0x3377, "dm"), (0x3378, "dm2"), (0x3379, "dm3"), (0x337A, "IU"), (0x3380, "pA"),
  (0x3381, "nA"), (0x3383, "mA"), (0x3384, "kA"), (0x3385, "KB"), (0x3386, "MB"), (0x3387, "GB"),
  (0x3388, "cal"), (0x3389, "kcal"), (0x338A, "pF"), (0x338B, "nF"), (0x338E, "mg"),
  (0x338F, "kg"), (0x3390, "Hz"), (0x3391, "kHz"), (0x3392, "MHz"), (0x3393, "GHz"),
  (0x3394, "THz"), (0x3396, "ml"), (0x3397, "dl"), (0x3398, "kl"), (0x3399, "fm"), (0x339A, "nm"),
  (0x339C, "mm"), (0x339D, "cm"), (0x339E, "km"), (0x339F, "mm2"), (0x33A0, "cm2"), (0x33A1, "m2"),
  (0x33A2, "km2"), (0x33A3, "mm3"), (0x33A4, "cm3"), (0x33A5, "m3"), (0x33A6, "km3"),
  (0x33A7, "ms"), (0x33A8, "ms2"), (0x33A9, "Pa"), (0x33AA, "kPa"), (0x33AB, "MPa"),
  (0x33AC, "GPa"), (0x33AD, "rad"), (0x33AE, "rads"), (0x33AF, "rads2"), (0x33B0, "ps"),
  (0x33B1, "ns"), (0x33B3, "ms"), (0x33B4, "pV"), (0x33B5, "nV"), (0x33B7, "mV"), (0x33B8, "kV"),
  (0x33B9, "MV"), (0x33BA, "pW"), (0x33BB, "nW"), (0x33BD, "mW"), (0x33BE, "kW"), (0x33BF, "MW"),
  (0x33C2, "a.m."), (0x33C3, "Bq"), (0x33C4, "cc"), (0x33C5, "cd"), (0x33C6, "Ckg"),
  (0x33C7, "Co."), (0x33C8, "dB"), (0x33C9, "Gy"), (0x33CA, "ha"), (0x33CB, "HP"), (0x33CC, "in"),
  (0x33CD, "KK"), (0x33CE, "KM"), (0x33CF, "kt"), (0x33D0, "lm"), (0x33D1, "ln"), (0x33D2, "log"),
  (0x33D3, "lx"), (0x33D4, "mb"), (0x33D5, "mil"), (0x33D6, "mol"), (0x33D7, "PH"),
  (0x33D8, "p.m."), (0x33D9, "PPM"), (0x33DA, "PR"), (0x33DB, "sr"), (0x33DC, "Sv"),
  (0x33DD, "Wb"), (0x33DE, "Vm"), (0x33DF, "Am"), (0x33E9, "10"), (0x33EA, "11"), (0x33EB, "12"),
  (0x33EC, "13"), (0x33ED, "14"), (0x33EE, "15"), (0x33EF, "16"), (0x33F0, "17"), (0x33F1, "18"),
  (0x33F2, "19"), (0x33F3, "20"), (0x33F4, "21"), (0x33F5, "22"), (0x33F6, "23"), (0x33F7, "24"),
  (0x33F8, "25"), (0x33F9, "26"), (0x33FA, "27"), (0x33FB, "28"), (0x33FC, "29"), (0x33FD, "30"),
  (0x33FE, "31"), (0x33FF, "gal"), (0xFB00, "ff"), (0xFB01, "fi"), (0xFB02, "fl"), (0xFB03, "ffi"),
  (0xFB04, "ffl"), (0xFB05, "st"), (0xFB06, "st"), (0xFDFA, "   "), (0xFE19, "..."),
  (0xFE30, ".."), (0x1F100, "0."), (0x1F101, "0,"), (0x1F102, "1,"), (0x1F103, "2,"),
  (0x1F104, "3,"), (0x1F105, "4,"), (0x1F106, "5,"), (0x1F107, "6,"), (0x1F108, "7,"),
  (0x1F109, "8,"), (0x1F10A, "9,"), (0x1F110, "(A)"), (0x1F111, "(B)"), (0x1F112, "(C)"),
  (0x1F113, "(D)"), (0x1F114, "(E)"), (0x1F115, "(F)"), (0x1F116, "(G)"), (0x1F117, "(H)"),
  (0x1F118, "(I)"), (0x1F119, "(J)"), (0x1F11A, "(K)"), (0x1F11B, "(L)"), (0x1F11C, "(M)"),
  (0x1F11D, "(N)"), (0x1F11E, "(O)"), (0x1F11F, "(P)"), (0x1F120, "(Q)"), (0x1F121, "(R)"),
  (0x1F122, "(S)"), (0x1F123, "(T)"), (0x1F124, "(U)"), (0x1F125, "(V)"), (0x1F126, "(W)"),
  (0x1F127, "(X)"), (0x1F128, "(Y)"), (0x1F129, "(Z)"), (0x1F12D, "CD"), (0x1F12E, "WZ"),
  (0x1F14A, "HV"), (0x1F14B, "MV"), (0x1F14C, "SD"), (0x1F14D, "SS"), (0x1F14E, "PPV"),
  (0x1F14F, "WC"), (0x1F16A, "MC"), (0x1F16B, "MD"), (0x1F16C, "MR"), (0x1F190, "DJ")]

/-- The ASCII part of a code beyond ASCII by the runs. -/
def latinOfRuns : List (Nat × String) → Nat → List Char
  | [], _ => []
  | (first, parts) :: rest, n =>
    if n < first then []
    else match parts.toList[n - first]? with
      | some c => [c]
      | none => latinOfRuns rest n

/-- The ASCII part of a character. -/
def latinChar (c : Char) : List Char :=
  if c.toNat < 0x80 then [c]
  else match latinExpansions.lookup c.toNat with
    | some s => s.toList
    | none => latinOfRuns latinRuns c.toNat

/-- The plain Latin spelling of a text. -/
def latin (t : List Char) : List Char := t.flatMap latinChar

end Retouch.Text
