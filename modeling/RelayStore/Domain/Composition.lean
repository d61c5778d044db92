import RelayStore.Text.Property

/-! Letters with marks as single characters, where there is one. -/
namespace RelayStore.Domain

/-- Valid characters that are made of another one and a mark, with both. -/
def composites : Text.Property := .ofText "
e0C61.300 e1C61.301 e2C61.302 e3C61.303 e4C61.308 e5C61.30a e7C63.327 e8C65.300 e9C65.301
eaC65.302 ebC65.308 ecC69.300 edC69.301 eeC69.302 efC69.308 f1C6e.303 f2C6f.300 f3C6f.301
f4C6f.302 f5C6f.303 f6C6f.308 f9C75.300 faC75.301 fbC75.302 fcC75.308 fdC79.301 ffC79.308
101C61.304 103C61.306 105C61.328 107C63.301 109C63.302 10bC63.307 10dC63.30c 10fC64.30c 113C65.304
115C65.306 117C65.307 119C65.328 11bC65.30c 11dC67.302 11fC67.306 121C67.307 123C67.327 125C68.302
129C69.303 12bC69.304 12dC69.306 12fC69.328 135C6a.302 137C6b.327 13aC6c.301 13cC6c.327 13eC6c.30c
144C6e.301 146C6e.327 148C6e.30c 14dC6f.304 14fC6f.306 151C6f.30b 155C72.301 157C72.327 159C72.30c
15bC73.301 15dC73.302 15fC73.327 161C73.30c 163C74.327 165C74.30c 169C75.303 16bC75.304 16dC75.306
16fC75.30a 171C75.30b 173C75.328 175C77.302 177C79.302 17aC7a.301 17cC7a.307 17eC7a.30c 1a1C6f.31b
1b0C75.31b 1ceC61.30c 1d0C69.30c 1d2C6f.30c 1d4C75.30c 1d6Cfc.304 1d8Cfc.301 1daCfc.30c 1dcCfc.300
1dfCe4.304 1e1C227.304 1e3Ce6.304 1e7C67.30c 1e9C6b.30c 1ebC6f.328 1edC1eb.304 1efC292.30c
1f0C6a.30c 1f5C67.301 1f9C6e.300 1fbCe5.301 1fdCe6.301 1ffCf8.301 201C61.30f 203C61.311 205C65.30f
207C65.311 209C69.30f 20bC69.311 20dC6f.30f 20fC6f.311 211C72.30f 213C72.311 215C75.30f 217C75.311
219C73.326 21bC74.326 21fC68.30c 227C61.307 229C65.327 22bCf6.304 22dCf5.304 22fC6f.307
231C22f.304 233C79.304 390C3ca.301 3acC3b1.301 3adC3b5.301 3aeC3b7.301 3afC3b9.301 3b0C3cb.301
3caC3b9.308 3cbC3c5.308 3ccC3bf.301 3cdC3c5.301 3ceC3c9.301 439C438.306 450C435.300 451C435.308
453C433.301 457C456.308 45cC43a.301 45dC438.300 45eC443.306 477C475.30f 4c2C436.306 4d1C430.306
4d3C430.308 4d7C435.306 4dbC4d9.308 4ddC436.308 4dfC437.308 4e3C438.304 4e5C438.308 4e7C43e.308
4ebC4e9.308 4edC44d.308 4efC443.304 4f1C443.308 4f3C443.30b 4f5C447.308 4f9C44b.308 622C627.653
623C627.654 624C648.654 625C627.655 626C64a.654 6c0C6d5.654 6c2C6c1.654 6d3C6d2.654 929C928.93c
931C930.93c 934C933.93c 9cbC9c7.9be 9ccC9c7.9d7 b48Cb47.b56 b4bCb47.b3e b4cCb47.b57 b94Cb92.bd7
bcaCbc6.bbe bcbCbc7.bbe bccCbc6.bd7 c48Cc46.c56 cc0Ccbf.cd5 cc7Ccc6.cd5 cc8Ccc6.cd6 ccaCcc6.cc2
ccbCcca.cd5 d4aCd46.d3e d4bCd47.d3e d4cCd46.d57 ddaCdd9.dca ddcCdd9.dcf dddCddc.dca ddeCdd9.ddf
1026C1025.102e 1b06C1b05.1b35 1b08C1b07.1b35 1b0aC1b09.1b35 1b0cC1b0b.1b35 1b0eC1b0d.1b35
1b12C1b11.1b35 1b3bC1b3a.1b35 1b3dC1b3c.1b35 1b40C1b3e.1b35 1b41C1b3f.1b35 1b43C1b42.1b35
1e01C61.325 1e03C62.307 1e05C62.323 1e07C62.331 1e09Ce7.301 1e0bC64.307 1e0dC64.323 1e0fC64.331
1e11C64.327 1e13C64.32d 1e15C113.300 1e17C113.301 1e19C65.32d 1e1bC65.330 1e1dC229.306 1e1fC66.307
1e21C67.304 1e23C68.307 1e25C68.323 1e27C68.308 1e29C68.327 1e2bC68.32e 1e2dC69.330 1e2fCef.301
1e31C6b.301 1e33C6b.323 1e35C6b.331 1e37C6c.323 1e39C1e37.304 1e3bC6c.331 1e3dC6c.32d 1e3fC6d.301
1e41C6d.307 1e43C6d.323 1e45C6e.307 1e47C6e.323 1e49C6e.331 1e4bC6e.32d 1e4dCf5.301 1e4fCf5.308
1e51C14d.300 1e53C14d.301 1e55C70.301 1e57C70.307 1e59C72.307 1e5bC72.323 1e5dC1e5b.304
1e5fC72.331 1e61C73.307 1e63C73.323 1e65C15b.307 1e67C161.307 1e69C1e63.307 1e6bC74.307
1e6dC74.323 1e6fC74.331 1e71C74.32d 1e73C75.324 1e75C75.330 1e77C75.32d 1e79C169.301 1e7bC16b.308
1e7dC76.303 1e7fC76.323 1e81C77.300 1e83C77.301 1e85C77.308 1e87C77.307 1e89C77.323 1e8bC78.307
1e8dC78.308 1e8fC79.307 1e91C7a.302 1e93C7a.323 1e95C7a.331 1e96C68.331 1e97C74.308 1e98C77.30a
1e99C79.30a 1ea1C61.323 1ea3C61.309 1ea5Ce2.301 1ea7Ce2.300 1ea9Ce2.309 1eabCe2.303 1eadC1ea1.302
1eafC103.301 1eb1C103.300 1eb3C103.309 1eb5C103.303 1eb7C1ea1.306 1eb9C65.323 1ebbC65.309
1ebdC65.303 1ebfCea.301 1ec1Cea.300 1ec3Cea.309 1ec5Cea.303 1ec7C1eb9.302 1ec9C69.309 1ecbC69.323
1ecdC6f.323 1ecfC6f.309 1ed1Cf4.301 1ed3Cf4.300 1ed5Cf4.309 1ed7Cf4.303 1ed9C1ecd.302 1edbC1a1.301
1eddC1a1.300 1edfC1a1.309 1ee1C1a1.303 1ee3C1a1.323 1ee5C75.323 1ee7C75.309 1ee9C1b0.301
1eebC1b0.300 1eedC1b0.309 1eefC1b0.303 1ef1C1b0.323 1ef3C79.300 1ef5C79.323 1ef7C79.309
1ef9C79.303 1f00C3b1.313 1f01C3b1.314 1f02C1f00.300 1f03C1f01.300 1f04C1f00.301 1f05C1f01.301
1f06C1f00.342 1f07C1f01.342 1f10C3b5.313 1f11C3b5.314 1f12C1f10.300 1f13C1f11.300 1f14C1f10.301
1f15C1f11.301 1f20C3b7.313 1f21C3b7.314 1f22C1f20.300 1f23C1f21.300 1f24C1f20.301 1f25C1f21.301
1f26C1f20.342 1f27C1f21.342 1f30C3b9.313 1f31C3b9.314 1f32C1f30.300 1f33C1f31.300 1f34C1f30.301
1f35C1f31.301 1f36C1f30.342 1f37C1f31.342 1f40C3bf.313 1f41C3bf.314 1f42C1f40.300 1f43C1f41.300
1f44C1f40.301 1f45C1f41.301 1f50C3c5.313 1f51C3c5.314 1f52C1f50.300 1f53C1f51.300 1f54C1f50.301
1f55C1f51.301 1f56C1f50.342 1f57C1f51.342 1f60C3c9.313 1f61C3c9.314 1f62C1f60.300 1f63C1f61.300
1f64C1f60.301 1f65C1f61.301 1f66C1f60.342 1f67C1f61.342 1f70C3b1.300 1f72C3b5.300 1f74C3b7.300
1f76C3b9.300 1f78C3bf.300 1f7aC3c5.300 1f7cC3c9.300 1fb0C3b1.306 1fb1C3b1.304 1fb6C3b1.342
1fc6C3b7.342 1fd0C3b9.306 1fd1C3b9.304 1fd2C3ca.300 1fd6C3b9.342 1fd7C3ca.342 1fe0C3c5.306
1fe1C3c5.304 1fe2C3cb.300 1fe4C3c1.313 1fe5C3c1.314 1fe6C3c5.342 1fe7C3cb.342 1ff6C3c9.342
219aC2190.338 219bC2192.338 21aeC2194.338 21cdC21d0.338 21ceC21d4.338 21cfC21d2.338 2204C2203.338
2209C2208.338 220cC220b.338 2224C2223.338 2226C2225.338 2241C223c.338 2244C2243.338 2247C2245.338
2249C2248.338 2260C3d.338 2262C2261.338 226dC224d.338 226eC3c.338 226fC3e.338 2270C2264.338
2271C2265.338 2274C2272.338 2275C2273.338 2278C2276.338 2279C2277.338 2280C227a.338 2281C227b.338
2284C2282.338 2285C2283.338 2288C2286.338 2289C2287.338 22acC22a2.338 22adC22a8.338 22aeC22a9.338
22afC22ab.338 22e0C227c.338 22e1C227d.338 22e2C2291.338 22e3C2292.338 22eaC22b2.338 22ebC22b3.338
22ecC22b4.338 22edC22b5.338 304cC304b.3099 304eC304d.3099 3050C304f.3099 3052C3051.3099
3054C3053.3099 3056C3055.3099 3058C3057.3099 305aC3059.3099 305cC305b.3099 305eC305d.3099
3060C305f.3099 3062C3061.3099 3065C3064.3099 3067C3066.3099 3069C3068.3099 3070C306f.3099
3071C306f.309a 3073C3072.3099 3074C3072.309a 3076C3075.3099 3077C3075.309a 3079C3078.3099
307aC3078.309a 307cC307b.3099 307dC307b.309a 3094C3046.3099 309eC309d.3099 30acC30ab.3099
30aeC30ad.3099 30b0C30af.3099 30b2C30b1.3099 30b4C30b3.3099 30b6C30b5.3099 30b8C30b7.3099
30baC30b9.3099 30bcC30bb.3099 30beC30bd.3099 30c0C30bf.3099 30c2C30c1.3099 30c5C30c4.3099
30c7C30c6.3099 30c9C30c8.3099 30d0C30cf.3099 30d1C30cf.309a 30d3C30d2.3099 30d4C30d2.309a
30d6C30d5.3099 30d7C30d5.309a 30d9C30d8.3099 30daC30d8.309a 30dcC30db.3099 30ddC30db.309a
30f4C30a6.3099 30f7C30ef.3099 30f8C30f0.3099 30f9C30f1.3099 30faC30f2.3099 30feC30fd.3099
1109aC11099.110ba 1109cC1109b.110ba 110abC110a5.110ba 1112eC11131.11127 1112fC11132.11127
1134bC11347.1133e 1134cC11347.11357 114bbC114b9.114ba 114bcC114b9.114b0 114beC114b9.114bd
115baC115b8.115af 115bbC115b9.115af 11938C11935.11930"

/-- The places of marks. Marks of different places may change their order, those of one place may
not; 0 is no mark. -/
def placements : Text.Property := .ofText "
0C0 300Ce6 315Ce8 316Cdc 31aCe8 31bCd8 31cCdc 321Cca 323Cdc 327Cca 329Cdc 334C1 339Cdc 33dCe6
347Cdc 34aCe6 34dCdc 350Ce6 353Cdc 357Ce6 358Ce8 359Cdc 35bCe6 35cCe9 35dCea 35fCe9 360Cea 362Ce9
363Ce6 371C0 483Ce6 488C0 591Cdc 592Ce6 596Cdc 597Ce6 59aCde 59bCdc 59cCe6 5a2Cdc 5a8Ce6 5aaCdc
5abCe6 5adCde 5aeCe4 5afCe6 5b0Ca 5b1Cb 5b2Cc 5b3Cd 5b4Ce 5b5Cf 5b6C10 5b7C11 5b8C12 5b9C13 5bbC14
5bcC15 5bdC16 5beC0 5bfC17 5c0C0 5c1C18 5c2C19 5c3C0 5c4Ce6 5c5Cdc 5c6C0 5c7C12 5d0C0 610Ce6
618C1e 619C1f 61aC20 61bC0 64bC1b 64cC1c 64dC1d 64eC1e 64fC1f 650C20 651C21 652C22 653Ce6 655Cdc
657Ce6 65cCdc 65dCe6 65fCdc 660C0 670C23 671C0 6d6Ce6 6deC0 6dfCe6 6e3Cdc 6e4Ce6 6e5C0 6e7Ce6
6e9C0 6eaCdc 6ebCe6 6edCdc 6eeC0 711C24 712C0 730Ce6 731Cdc 732Ce6 734Cdc 735Ce6 737Cdc 73aCe6
73bCdc 73dCe6 73eCdc 73fCe6 742Cdc 743Ce6 744Cdc 745Ce6 746Cdc 747Ce6 748Cdc 749Ce6 74dC0 7ebCe6
7f2Cdc 7f3Ce6 7f4C0 7fdCdc 7feC0 816Ce6 81aC0 81bCe6 824C0 825Ce6 828C0 829Ce6 830C0 859Cdc 85eC0
898Ce6 899Cdc 89cCe6 8a0C0 8caCe6 8cfCdc 8d4Ce6 8e3Cdc 8e4Ce6 8e6Cdc 8e7Ce6 8e9Cdc 8eaCe6 8edCdc
8f0C1b 8f1C1c 8f2C1d 8f3Ce6 8f6Cdc 8f7Ce6 8f9Cdc 8fbCe6 900C0 93cC7 93dC0 94dC9 94eC0 951Ce6
952Cdc 953Ce6 955C0 9bcC7 9bdC0 9cdC9 9ceC0 9feCe6 a01C0 a3cC7 a3eC0 a4dC9 a51C0 abcC7 abdC0 acdC9
ad0C0 b3cC7 b3dC0 b4dC9 b55C0 bcdC9 bd0C0 c3cC7 c3dC0 c4dC9 c55C54 c56C5b c58C0 cbcC7 cbdC0 ccdC9
cd5C0 d3bC9 d3dC0 d4dC9 d4eC0 dcaC9 dcfC0 e38C67 e3aC9 e3fC0 e48C6b e4cC0 eb8C76 ebaC9 ebbC0
ec8C7a eccC0 eceC7a ed0C0 f18Cdc f1aC0 f35Cdc f36C0 f37Cdc f38C0 f39Cd8 f3aC0 f71C81 f72C82 f74C84
f7aC82 f7eC0 f80C82 f82Ce6 f84C9 f85C0 f86Ce6 f88C0 fc6Cdc fc7C0 1037C7 1038C0 1039C9 103bC0
108dCdc 108eC0 135dCe6 1360C0 1714C9 171fC0 1734C9 1735C0 17d2C9 17d3C0 17ddCe6 17e0C0 18a9Ce4
18aaC0 1939Cde 193aCe6 193bCdc 1940C0 1a17Ce6 1a18Cdc 1a19C0 1a60C9 1a61C0 1a75Ce6 1a7fCdc 1a80C0
1ab0Ce6 1ab5Cdc 1abbCe6 1abdCdc 1abeC0 1abfCdc 1ac1Ce6 1ac3Cdc 1ac5Ce6 1acaCdc 1acbCe6 1b00C0
1b34C7 1b35C0 1b44C9 1b45C0 1b6bCe6 1b6cCdc 1b6dCe6 1b74C0 1baaC9 1bacC0 1be6C7 1be7C0 1bf2C9
1bfcC0 1c37C7 1c3bC0 1cd0Ce6 1cd3C0 1cd4C1 1cd5Cdc 1cdaCe6 1cdcCdc 1ce0Ce6 1ce1C0 1ce2C1 1ce9C0
1cedCdc 1ceeC0 1cf4Ce6 1cf5C0 1cf8Ce6 1cfaC0 1dc0Ce6 1dc2Cdc 1dc3Ce6 1dcaCdc 1dcbCe6 1dcdCea
1dceCd6 1dcfCdc 1dd0Cca 1dd1Ce6 1df6Ce8 1df7Ce4 1df9Cdc 1dfaCda 1dfbCe6 1dfcCe9 1dfdCdc 1dfeCe6
1dffCdc 1e01C0 20d0Ce6 20d2C1 20d4Ce6 20d8C1 20dbCe6 20ddC0 20e1Ce6 20e2C0 20e5C1 20e7Ce6 20e8Cdc
20e9Ce6 20eaC1 20ecCdc 20f0Ce6 2104C0 2cefCe6 2cf3C0 2d7fC9 2d80C0 2de0Ce6 2e00C0 302aCda 302bCe4
302cCe8 302dCde 302eCe0 3030C0 3099C8 309dC0 a66fCe6 a670C0 a674Ce6 a67eC0 a69eCe6 a6a0C0 a6f0Ce6
a6f2C0 a806C9 a807C0 a82cC9 a830C0 a8c4C9 a8c5C0 a8e0Ce6 a8f2C0 a92bCdc a92eC0 a953C9 a95fC0
a9b3C7 a9b4C0 a9c0C9 a9c1C0 aab0Ce6 aab1C0 aab2Ce6 aab4Cdc aab5C0 aab7Ce6 aab9C0 aabeCe6 aac0C0
aac1Ce6 aac2C0 aaf6C9 ab01C0 abedC9 abf0C0 fb1eC1a fbb2C0 fe20Ce6 fe27Cdc fe2eCe6 fe45C0 101fdCdc
10280C0 102e0Cdc 102e1C0 10376Ce6 10380C0 10a0dCdc 10a0eC0 10a0fCe6 10a10C0 10a38Ce6 10a39C1
10a3aCdc 10a3fC9 10a40C0 10ae5Ce6 10ae6Cdc 10aebC0 10d24Ce6 10d30C0 10eabCe6 10eadC0 10efdCdc
10f00C0 10f46Cdc 10f48Ce6 10f4bCdc 10f4cCe6 10f4dCdc 10f51C0 10f82Ce6 10f83Cdc 10f84Ce6 10f85Cdc
10f86C0 11046C9 11047C0 11070C9 11071C0 1107fC9 11080C0 110b9C9 110baC7 110bbC0 11100Ce6 11103C0
11133C9 11136C0 11173C7 11174C0 111c0C9 111c1C0 111caC7 111cbC0 11235C9 11236C7 11237C0 112e9C7
112eaC9 112f0C0 1133bC7 1133dC0 1134dC9 11350C0 11366Ce6 11400C0 11442C9 11443C0 11446C7 11447C0
1145eCe6 1145fC0 114c2C9 114c3C7 114c4C0 115bfC9 115c0C7 115c1C0 1163fC9 11640C0 116b6C9 116b7C7
116b8C0 1172bC9 11730C0 11839C9 1183aC7 1183bC0 1193dC9 1193fC0 11943C7 11944C0 119e0C9 119e1C0
11a34C9 11a35C0 11a47C9 11a50C0 11a99C9 11a9aC0 11c3fC9 11c40C0 11d42C7 11d43C0 11d44C9 11d46C0
11d97C9 11d98C0 11f41C9 11f43C0 16af0C1 16af5C0 16b30Ce6 16b37C0 16ff0C6 17000C0 1bc9eC1 1bc9fC0
1d165Cd8 1d167C1 1d16aC0 1d16dCe2 1d16eCd8 1d17bCdc 1d183C0 1d185Ce6 1d18aCdc 1d18cC0 1d1aaCe6
1d1aeC0 1d242Ce6 1d245C0 1e000Ce6 1e100C0 1e130Ce6 1e137C0 1e2aeCe6 1e2c0C0 1e2ecCe6 1e2f0C0
1e4ecCe8 1e4eeCdc 1e4efCe6 1e4f0C0 1e8d0Cdc 1e922C0 1e944Ce6 1e94aC7 1e94bC0"

def placement (c : Char) : Nat := ((placements.find? c).bind fun x => x.numbers.head?).getD 0

/-! Korean syllables are made of two or three letters by a rule. -/

def syllable : Nat := 0xac00
def leading : Nat := 0x1100
def vowel : Nat := 0x1161
/-- One before the first trailing letter. -/
def trailing : Nat := 0x11a7

def isSyllable (n : Nat) : Bool := decide (syllable ≤ n) && decide (n < syllable + 19 * 21 * 28)

/-- The letters of a syllable. -/
def letters (n : Nat) : List Char :=
  let i := n - syllable
  let last := i % 28
  [Char.ofNat (leading + i / 588), Char.ofNat (vowel + i % 588 / 28)] ++
    if last = 0 then [] else [Char.ofNat (trailing + last)]

/-- The syllable of two letters, or of a syllable and a trailing letter. -/
def syllableOf? (a b : Nat) : Option Char :=
  if leading ≤ a ∧ a < leading + 19 ∧ vowel ≤ b ∧ b < vowel + 21 then
    some (Char.ofNat (syllable + 588 * (a - leading) + 28 * (b - vowel)))
  else if isSyllable a ∧ (a - syllable) % 28 = 0 ∧ trailing < b ∧ b < trailing + 28 then
    some (Char.ofNat (a + (b - trailing)))
  else none

/-! Taking apart. -/

/-- The two parts of a character that has some. -/
def parts? (c : Char) : Option (Char × Char) :=
  match composites.find? c with
  | some ⟨first, _, [a, b]⟩ => if first = c.toNat then some (Char.ofNat a, Char.ofNat b) else none
  | _ => none

/-- A character with at most so many marks taken apart. -/
def takeApart : Nat → Char → List Char
  | 0, c => [c]
  | n + 1, c =>
    if isSyllable c.toNat then letters c.toNat
    else match parts? c with
    | some (a, b) => takeApart n a ++ [b]
    | none => [c]

/-- Puts a character behind a reversed text. A mark goes before those of later places. -/
def place (text : List Char) (c : Char) : List Char :=
  let p := placement c
  if p = 0 then c :: text
  else
    let isLater (d : Char) : Bool := decide (p < placement d)
    text.takeWhile isLater ++ c :: text.dropWhile isLater

def decomposed (text : List Char) : List Char :=
  ((text.flatMap (takeApart 4)).foldl place []).reverse

/-! Putting together. -/

/-- The single character for two. The second one is never of the first places of the code. -/
def whole? (a b : Char) : Option Char :=
  if b.toNat < 0x300 then none
  else (syllableOf? a.toNat b.toNat).or
    ((composites.changes.find? fun x => x.numbers = [a.toNat, b.toNat]).map fun x =>
      Char.ofNat x.first)

/-- Puts marks together with the character before them unless one of their place stands between. -/
def attach (base : Char) (between : List Char) : List Char → List Char
  | [] => base :: between.reverse
  | c :: rest =>
    let blocked := between.head?.any fun d => placement c ≤ placement d
    match if blocked then none else whole? base c with
    | some whole => attach whole between rest
    | none =>
      if placement c = 0 then base :: between.reverse ++ attach c [] rest
      else attach base (c :: between) rest

def composed : List Char → List Char
  | [] => []
  | c :: rest => if placement c = 0 then attach c [] rest else c :: composed rest

/-- The one form of all texts that differ only in how letters with marks are written. -/
def normalized (text : List Char) : List Char := composed (decomposed text)

end RelayStore.Domain
