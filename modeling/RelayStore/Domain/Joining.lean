import RelayStore.Domain.Composition

/-! The two invisible characters that join letters or part them. -/
namespace RelayStore.Domain

/-- Letters that join the next one `L`, the one before `R`, both `D`; marks between them `T`. -/
def joinings : Text.Property := .ofText "
0U 300T 371U 483T 48bU 591T 5beU 5bfT 5c0U 5c1T 5c3U 5c4T 5c6U 5c7T 5d0U 610T 61bU 620D 621U 622R
626D 627R 628D 629R 62aD 62fR 633D 640C 641D 648R 649D 64bT 660U 66eD 670T 671R 674U 679D 688R
69aD 6c0R 6c1D 6c3R 6ccD 6cdR 6ceD 6cfR 6d0D 6d2R 6d4U 6d5R 6d6T 6deU 6dfT 6e5U 6e7T 6e9U 6eaT
6eeR 6f0U 6faD 6fdU 6ffD 700U 710R 711T 712D 715R 71aD 71eR 71fD 728R 729D 72aR 72bD 72cR 72dD
72fR 730T 74dR 74eD 759R 75cD 76bR 76dD 771R 772D 773R 775D 778R 77aD 780U 7a6T 7b1U 7caD 7ebT
7f4U 7faC 7fdT 7feU 816T 81aU 81bT 824U 825T 828U 829T 830U 840R 841D 846R 848D 849R 84aD 854R
855D 856R 859T 85eU 860D 861U 862D 866U 867R 868D 869R 883C 886D 887U 889D 88eR 898T 8a0D 8aaR
8adU 8aeR 8afD 8b1R 8b3D 8b9R 8baD 8c9U 8caT 903U 93aT 93bU 93cT 93dU 941T 949U 94dT 94eU 951T
960U 962T 964U 981T 982U 9bcT 9bdU 9c1T 9c7U 9cdT 9ceU 9e2T 9e6U 9feT a03U a3cT a3eU a41T a5cU
a70T a72U a75T a76U a81T a83U abcT abdU ac1T ac9U acdT ad0U ae2T ae6U afaT b02U b3cT b3dU b3fT
b40U b41T b47U b4dT b57U b62T b66U b82T b83U bc0T bc1U bcdT bd0U c00T c01U c04T c05U c3cT c3dU
c3eT c41U c46T c58U c62T c66U c81T c82U cbcT cbdU cbfT cc0U cc6T cc7U cccT cd5U ce2T ce6U d00T
d02U d3bT d3dU d41T d46U d4dT d4eU d62T d66U d81T d82U dcaT dcfU dd2T dd8U e31T e32U e34T e3fU
e47T e4fU eb1T eb2U eb4T ebdU ec8T ed0U f18T f1aU f35T f36U f37T f38U f39T f3aU f71T f7fU f80T
f85U f86T f88U f8dT fbeU fc6T fc7U 102dT 1031U 1032T 1038U 1039T 103bU 103dT 103fU 1058T 105aU
105eT 1061U 1071T 1075U 1082T 1083U 1085T 1087U 108dT 108eU 109dT 109eU 135dT 1360U 1712T 1715U
1732T 1734U 1752T 1760U 1772T 1780U 17b7T 17beU 17c6T 17c7U 17c9T 17d4U 17ddT 17e0U 1807D 1808U
180aC 1810U 1820D 1880U 1885T 1887D 18a9T 18aaD 18b0U 1920T 1923U 1927T 1929U 1932T 1933U 1939T
1940U 1a17T 1a19U 1a1bT 1a1eU 1a56T 1a57U 1a58T 1a61U 1a62T 1a63U 1a65T 1a6dU 1a73T 1a80U 1ab0T
1b04U 1b34T 1b35U 1b36T 1b3bU 1b3cT 1b3dU 1b42T 1b43U 1b6bT 1b74U 1b80T 1b82U 1ba2T 1ba6U 1ba8T
1baaU 1babT 1baeU 1be6T 1be7U 1be8T 1beaU 1bedT 1beeU 1befT 1bf2U 1c2cT 1c34U 1c36T 1c3bU 1cd0T
1cd3U 1cd4T 1ce1U 1ce2T 1ce9U 1cedT 1ceeU 1cf4T 1cf5U 1cf8T 1cfaU 1dc0T 1e01U 200dC 2010U 20d0T
2104U 2cefT 2cf3U 2d7fT 2d80U 2de0T 2e00U 302aT 302eU 3099T 309dU a66fT a673U a674T a67eU a69eT
a6a0U a6f0T a6f2U a802T a803U a806T a807U a80bT a80cU a825T a827U a82cT a830U a840D a872L a873U
a8c4T a8ceU a8e0T a8f2U a8ffT a900U a926T a92eU a947T a952U a980T a983U a9b3T a9b4U a9b6T a9baU
a9bcT a9beU a9e5T a9e6U aa29T aa2fU aa31T aa33U aa35T aa40U aa43T aa44U aa4cT aa4dU aa7cT aa7dU
aab0T aab1U aab2T aab5U aab7T aab9U aabeT aac0U aac1T aac2U aaecT aaeeU aaf6T ab01U abe5T abe6U
abe8T abe9U abedT abf0U fb1eT fbb2U fe20T fe45U 101fdT 10280U 102e0T 102e1U 10376T 10380U 10a01T
10a10U 10a38T 10a40U 10ac0D 10ac5R 10ac6U 10ac7R 10ac8U 10ac9R 10acbU 10acdL 10aceR 10ad3D 10ad7L
10ad8D 10addR 10adeD 10ae1R 10ae2U 10ae4R 10ae5T 10aebD 10aefR 10af0U 10b80D 10b81R 10b82D 10b83R
10b86D 10b89R 10b8aD 10b8cR 10b8dD 10b8eR 10b90D 10b91R 10b99U 10ba9R 10badD 10bafU 10d00L 10d01D
10d22R 10d23D 10d24T 10d30U 10eabT 10eadU 10efdT 10f00U 10f30D 10f33R 10f34D 10f45U 10f46T 10f51D
10f54R 10f55U 10f70D 10f74R 10f76D 10f82T 10f86U 10fb0D 10fb1U 10fb2D 10fb4R 10fb7U 10fb8D 10fb9R
10fbbD 10fbdR 10fbeD 10fc0U 10fc1D 10fc2R 10fc4D 10fc5U 10fc9R 10fcaD 10fcbL 10fe0U 11001T 11002U
11038T 11047U 11070T 11071U 11073T 11075U 1107fT 11082U 110b3T 110b7U 110b9T 110bbU 110c2T 110d0U
11100T 11103U 11127T 1112cU 1112dT 11136U 11173T 11174U 11180T 11182U 111b6T 111bfU 111c9T 111cdU
111cfT 111d0U 1122fT 11232U 11234T 11235U 11236T 11238U 1123eT 1123fU 11241T 11280U 112dfT 112e0U
112e3T 112f0U 11300T 11302U 1133bT 1133dU 11340T 11341U 11366T 11400U 11438T 11440U 11442T 11445U
11446T 11447U 1145eT 1145fU 114b3T 114b9U 114baT 114bbU 114bfT 114c1U 114c2T 114c4U 115b2T 115b8U
115bcT 115beU 115bfT 115c1U 115dcT 11600U 11633T 1163bU 1163dT 1163eU 1163fT 11641U 116abT 116acU
116adT 116aeU 116b0T 116b6U 116b7T 116b8U 1171dT 11720U 11722T 11726U 11727T 11730U 1182fT 11838U
11839T 1183bU 1193bT 1193dU 1193eT 1193fU 11943T 11944U 119d4T 119dcU 119e0T 119e1U 11a01T 11a0bU
11a33T 11a39U 11a3bT 11a3fU 11a47T 11a50U 11a51T 11a57U 11a59T 11a5cU 11a8aT 11a97U 11a98T 11a9aU
11c30T 11c3eU 11c3fT 11c40U 11c92T 11ca9U 11caaT 11cb1U 11cb2T 11cb4U 11cb5T 11d00U 11d31T 11d46U
11d47T 11d50U 11d90T 11d93U 11d95T 11d96U 11d97T 11d98U 11ef3T 11ef5U 11f00T 11f02U 11f36T 11f3eU
11f40T 11f41U 11f42T 11f43U 13440T 13441U 13447T 14400U 16af0T 16af5U 16b30T 16b37U 16f4fT 16f50U
16f8fT 16f93U 16fe4T 16ff0U 1bc9dT 1bc9fU 1cf00T 1cf50U 1d167T 1d16aU 1d17bT 1d183U 1d185T 1d18cU
1d1aaT 1d1aeU 1d242T 1d245U 1da00T 1da37U 1da3bT 1da6dU 1da75T 1da76U 1da84T 1da85U 1da9bT 1df00U
1e000T 1e100U 1e130T 1e137U 1e2aeT 1e2c0U 1e2ecT 1e2f0U 1e4ecT 1e4f0U 1e8d0T 1e922D 1e944T 1e950U"

/-- Marks `M` and other characters `L`. -/
def marks : Text.Property := .ofText "
0L 300M 371L 483M 48bL 591M 5beL 5bfM 5c0L 5c1M 5c3L 5c4M 5c6L 5c7M 5d0L 610M 61bL 64bM 660L 670M
671L 6d6M 6deL 6dfM 6e5L 6e7M 6e9L 6eaM 6eeL 711M 712L 730M 74dL 7a6M 7b1L 7ebM 7f4L 7fdM 7feL
816M 81aL 81bM 824L 825M 828L 829M 830L 859M 85eL 898M 8a0L 8caM 904L 93aM 93dL 93eM 950L 951M
960L 962M 964L 981M 985L 9bcM 9bdL 9beM 9ceL 9d7M 9e0L 9e2M 9e6L 9feM a05L a3cM a5cL a70M a72L
a75M a76L a81M a85L abcM abdL abeM ad0L ae2M ae6L afaM b05L b3cM b3dL b3eM b5fL b62M b66L b82M
b83L bbeM bd0L bd7M be6L c00M c05L c3cM c3dL c3eM c58L c62M c66L c81M c84L cbcM cbdL cbeM cddL
ce2M ce6L cf3M d04L d3bM d3dL d3eM d4eL d57M d58L d62M d66L d81M d85L dcaM de6L df2M df4L e31M
e32L e34M e3fL e47M e4fL eb1M eb2L eb4M ebdL ec8M ed0L f18M f1aL f35M f36L f37M f38L f39M f3aL
f3eM f40L f71M f85L f86M f88L f8dM fbeL fc6M fc7L 102bM 103fL 1056M 105aL 105eM 1061L 1062M 1065L
1067M 106eL 1071M 1075L 1082M 108eL 108fM 1090L 109aM 109eL 135dM 1360L 1712M 171fL 1732M 1735L
1752M 1760L 1772M 1780L 17b6M 17d4L 17ddM 17e0L 1885M 1887L 18a9M 18aaL 1920M 1940L 1a17M 1a1eL
1a55M 1a80L 1ab0M 1b05L 1b34M 1b45L 1b6bM 1b74L 1b80M 1b83L 1ba1M 1baeL 1be6M 1bfcL 1c24M 1c3bL
1cd0M 1cd3L 1cd4M 1ce9L 1cedM 1ceeL 1cf4M 1cf5L 1cf7M 1cfaL 1dc0M 1e01L 20d0M 2104L 2cefM 2cf3L
2d7fM 2d80L 2de0M 2e00L 302aM 3030L 3099M 309dL a66fM a673L a674M a67eL a69eM a6a0L a6f0M a6f2L
a802M a803L a806M a807L a80bM a80cL a823M a828L a82cM a830L a880M a882L a8b4M a8ceL a8e0M a8f2L
a8ffM a900L a926M a92eL a947M a95fL a980M a984L a9b3M a9c1L a9e5M a9e6L aa29M aa40L aa43M aa44L
aa4cM aa50L aa7bM aa7eL aab0M aab1L aab2M aab5L aab7M aab9L aabeM aac0L aac1M aac2L aaebM aaf0L
aaf5M ab01L abe3M abebL abecM abf0L fb1eM fbb2L fe20M fe45L 101fdM 10280L 102e0M 102e1L 10376M
10380L 10a01M 10a10L 10a38M 10a40L 10ae5M 10aebL 10d24M 10d30L 10eabM 10eadL 10efdM 10f00L 10f46M
10f51L 10f82M 10f86L 11000M 11003L 11038M 11047L 11070M 11071L 11073M 11075L 1107fM 11083L 110b0M
110bbL 110c2M 110d0L 11100M 11103L 11127M 11136L 11145M 11147L 11173M 11174L 11180M 11183L 111b3M
111c1L 111c9M 111cdL 111ceM 111d0L 1122cM 11238L 1123eM 1123fL 11241M 11280L 112dfM 112f0L 11300M
11305L 1133bM 1133dL 1133eM 11350L 11357M 1135dL 11362M 11400L 11435M 11447L 1145eM 1145fL 114b0M
114c4L 115afM 115c1L 115dcM 11600L 11630M 11641L 116abM 116b8L 1171dM 11730L 1182cM 1183bL 11930M
1193fL 11940M 11941L 11942M 11944L 119d1M 119e1L 119e4M 11a00L 11a01M 11a0bL 11a33M 11a3aL 11a3bM
11a3fL 11a47M 11a50L 11a51M 11a5cL 11a8aM 11a9aL 11c2fM 11c40L 11c92M 11d00L 11d31M 11d46L 11d47M
11d50L 11d8aM 11d98L 11ef3M 11ef7L 11f00M 11f02L 11f03M 11f04L 11f34M 11f43L 13440M 13441L 13447M
14400L 16af0M 16af5L 16b30M 16b37L 16f4fM 16f50L 16f51M 16f93L 16fe4M 17000L 1bc9dM 1bc9fL 1cf00M
1cf50L 1d165M 1d16aL 1d16dM 1d183L 1d185M 1d18cL 1d1aaM 1d1aeL 1d242M 1d245L 1da00M 1da37L 1da3bM
1da6dL 1da75M 1da76L 1da84M 1da85L 1da9bM 1df00L 1e000M 1e100L 1e130M 1e137L 1e2aeM 1e2c0L 1e2ecM
1e2f0L 1e4ecM 1e4f0L 1e8d0M 1e922L 1e944M 1e94bL"

def hasJoining (names : List Char) (c : Char) : Bool := names.contains ((joinings.mark? c).getD 'U')

def isMark (c : Char) : Bool := marks.mark? c = some 'M'

/-- A mark that takes away the vowel of its letter. -/
def isVowelKiller (c : Char) : Bool := placement c = 9

def joiner : Char := Char.ofNat 0x200d
def parter : Char := Char.ofNat 0x200c

/-- The nearest letter, marks apart, joins. -/
def joins (names : List Char) (text : List Char) : Bool :=
  (text.dropWhile (hasJoining ['T'])).head?.any (hasJoining names)

/-- Both stand behind a vowel killer. The one that parts letters may also stand between two letters
that would join. The characters before come in reversed order. -/
def areJoinersRight (before : List Char) : List Char → Bool
  | [] => true
  | c :: rest =>
    (if c = joiner then before.head?.any isVowelKiller
      else if c = parter then before.head?.any isVowelKiller ||
        (joins ['L', 'D'] before && joins ['R', 'D'] rest)
      else true) && areJoinersRight (c :: before) rest

end RelayStore.Domain
