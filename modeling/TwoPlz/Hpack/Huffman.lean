import TwoPlz.Hpack.Header

/-! The Huffman code of HPACK (`hpack/huffman`). -/

namespace TwoPlz.Hpack.Huffman

def MAYBE_EOS : Nat := 1

def DECODED : Nat := 2

def ERROR : Nat := 4

/-- `(num-bits, bits)`; the last one is the end of the string. -/
def ENCODE_TABLE : List (Nat × Nat) :=
  [(13, 0x1ff8), (23, 0x007fffd8), (28, 0x0fffffe2), (28, 0x0fffffe3), (28, 0x0fffffe4),
    (28, 0x0fffffe5), (28, 0x0fffffe6), (28, 0x0fffffe7), (28, 0x0fffffe8), (24, 0x00ffffea),
    (30, 0x3ffffffc), (28, 0x0fffffe9), (28, 0x0fffffea), (30, 0x3ffffffd), (28, 0x0fffffeb),
    (28, 0x0fffffec), (28, 0x0fffffed), (28, 0x0fffffee), (28, 0x0fffffef), (28, 0x0ffffff0),
    (28, 0x0ffffff1), (28, 0x0ffffff2), (30, 0x3ffffffe), (28, 0x0ffffff3), (28, 0x0ffffff4),
    (28, 0x0ffffff5), (28, 0x0ffffff6), (28, 0x0ffffff7), (28, 0x0ffffff8), (28, 0x0ffffff9),
    (28, 0x0ffffffa), (28, 0x0ffffffb), (6, 0x14), (10, 0x3f8), (10, 0x3f9), (12, 0xffa),
    (13, 0x1ff9), (6, 0x15), (8, 0xf8), (11, 0x7fa), (10, 0x3fa), (10, 0x3fb), (8, 0xf9),
    (11, 0x7fb), (8, 0xfa), (6, 0x16), (6, 0x17), (6, 0x18), (5, 0x0), (5, 0x1), (5, 0x2),
    (6, 0x19), (6, 0x1a), (6, 0x1b), (6, 0x1c), (6, 0x1d), (6, 0x1e), (6, 0x1f), (7, 0x5c),
    (8, 0xfb), (15, 0x7ffc), (6, 0x20), (12, 0xffb), (10, 0x3fc), (13, 0x1ffa), (6, 0x21),
    (7, 0x5d), (7, 0x5e), (7, 0x5f), (7, 0x60), (7, 0x61), (7, 0x62), (7, 0x63), (7, 0x64),
    (7, 0x65), (7, 0x66), (7, 0x67), (7, 0x68), (7, 0x69), (7, 0x6a), (7, 0x6b), (7, 0x6c),
    (7, 0x6d), (7, 0x6e), (7, 0x6f), (7, 0x70), (7, 0x71), (7, 0x72), (8, 0xfc), (7, 0x73),
    (8, 0xfd), (13, 0x1ffb), (19, 0x7fff0), (13, 0x1ffc), (14, 0x3ffc), (6, 0x22), (15, 0x7ffd),
    (5, 0x3), (6, 0x23), (5, 0x4), (6, 0x24), (5, 0x5), (6, 0x25), (6, 0x26), (6, 0x27), (5, 0x6),
    (7, 0x74), (7, 0x75), (6, 0x28), (6, 0x29), (6, 0x2a), (5, 0x7), (6, 0x2b), (7, 0x76),
    (6, 0x2c), (5, 0x8), (5, 0x9), (6, 0x2d), (7, 0x77), (7, 0x78), (7, 0x79), (7, 0x7a),
    (7, 0x7b), (15, 0x7ffe), (11, 0x7fc), (14, 0x3ffd), (13, 0x1ffd), (28, 0x0ffffffc),
    (20, 0xfffe6), (22, 0x003fffd2), (20, 0xfffe7), (20, 0xfffe8), (22, 0x003fffd3),
    (22, 0x003fffd4), (22, 0x003fffd5), (23, 0x007fffd9), (22, 0x003fffd6), (23, 0x007fffda),
    (23, 0x007fffdb), (23, 0x007fffdc), (23, 0x007fffdd), (23, 0x007fffde), (24, 0x00ffffeb),
    (23, 0x007fffdf), (24, 0x00ffffec), (24, 0x00ffffed), (22, 0x003fffd7), (23, 0x007fffe0),
    (24, 0x00ffffee), (23, 0x007fffe1), (23, 0x007fffe2), (23, 0x007fffe3), (23, 0x007fffe4),
    (21, 0x001fffdc), (22, 0x003fffd8), (23, 0x007fffe5), (22, 0x003fffd9), (23, 0x007fffe6),
    (23, 0x007fffe7), (24, 0x00ffffef), (22, 0x003fffda), (21, 0x001fffdd), (20, 0xfffe9),
    (22, 0x003fffdb), (22, 0x003fffdc), (23, 0x007fffe8), (23, 0x007fffe9), (21, 0x001fffde),
    (23, 0x007fffea), (22, 0x003fffdd), (22, 0x003fffde), (24, 0x00fffff0), (21, 0x001fffdf),
    (22, 0x003fffdf), (23, 0x007fffeb), (23, 0x007fffec), (21, 0x001fffe0), (21, 0x001fffe1),
    (22, 0x003fffe0), (21, 0x001fffe2), (23, 0x007fffed), (22, 0x003fffe1), (23, 0x007fffee),
    (23, 0x007fffef), (20, 0xfffea), (22, 0x003fffe2), (22, 0x003fffe3), (22, 0x003fffe4),
    (23, 0x007ffff0), (22, 0x003fffe5), (22, 0x003fffe6), (23, 0x007ffff1), (26, 0x03ffffe0),
    (26, 0x03ffffe1), (20, 0xfffeb), (19, 0x7fff1), (22, 0x003fffe7), (23, 0x007ffff2),
    (22, 0x003fffe8), (25, 0x01ffffec), (26, 0x03ffffe2), (26, 0x03ffffe3), (26, 0x03ffffe4),
    (27, 0x07ffffde), (27, 0x07ffffdf), (26, 0x03ffffe5), (24, 0x00fffff1), (25, 0x01ffffed),
    (19, 0x7fff2), (21, 0x001fffe3), (26, 0x03ffffe6), (27, 0x07ffffe0), (27, 0x07ffffe1),
    (26, 0x03ffffe7), (27, 0x07ffffe2), (24, 0x00fffff2), (21, 0x001fffe4), (21, 0x001fffe5),
    (26, 0x03ffffe8), (26, 0x03ffffe9), (28, 0x0ffffffd), (27, 0x07ffffe3), (27, 0x07ffffe4),
    (27, 0x07ffffe5), (20, 0xfffec), (24, 0x00fffff3), (20, 0xfffed), (21, 0x001fffe6),
    (22, 0x003fffe9), (21, 0x001fffe7), (21, 0x001fffe8), (23, 0x007ffff3), (22, 0x003fffea),
    (22, 0x003fffeb), (25, 0x01ffffee), (25, 0x01ffffef), (24, 0x00fffff4), (24, 0x00fffff5),
    (26, 0x03ffffea), (23, 0x007ffff4), (26, 0x03ffffeb), (27, 0x07ffffe6), (26, 0x03ffffec),
    (26, 0x03ffffed), (27, 0x07ffffe7), (27, 0x07ffffe8), (27, 0x07ffffe9), (27, 0x07ffffea),
    (27, 0x07ffffeb), (28, 0x0ffffffe), (27, 0x07ffffec), (27, 0x07ffffed), (27, 0x07ffffee),
    (27, 0x07ffffef), (27, 0x07fffff0), (26, 0x03ffffee), (30, 0x3fffffff)]

/-- One row for each state.  Five hexadecimal digits stand for one nibble of input, the leftmost
ones for nibble 0: the next state, the byte and the flags. -/
def DECODE_TABLE : List Nat := [
  0x04000_05000_07000_08000_0b000_0c000_10000_13000_19000_1c000_20000_23000_2a000_31000_39000_40001,
  0x00302_00312_00322_00612_00632_00652_00692_006f2_00732_00742_0d000_0e000_11000_12000_14000_15000,
  0x01302_16303_01312_16313_01322_16323_01612_16613_01632_16633_01652_16653_01692_16693_016f2_166f3,
  0x02302_09302_17302_28303_02312_09312_17312_28313_02322_09322_17322_28323_02612_09612_17612_28613,
  0x03302_06302_0a302_0f302_18302_1f302_29302_38303_03312_06312_0a312_0f312_18312_1f312_29312_38313,
  0x03322_06322_0a322_0f322_18322_1f322_29322_38323_03612_06612_0a612_0f612_18612_1f612_29612_38613,
  0x02632_09632_17632_28633_02652_09652_17652_28653_02692_09692_17692_28693_026f2_096f2_176f2_286f3,
  0x03632_06632_0a632_0f632_18632_1f632_29632_38633_03652_06652_0a652_0f652_18652_1f652_29652_38653,
  0x03692_06692_0a692_0f692_18692_1f692_29692_38693_036f2_066f2_0a6f2_0f6f2_186f2_1f6f2_296f2_386f3,
  0x01732_16733_01742_16743_00202_00252_002d2_002e2_002f2_00332_00342_00352_00362_00372_00382_00392,
  0x02732_09732_17732_28733_02742_09742_17742_28743_01202_16203_01252_16253_012d2_162d3_012e2_162e3,
  0x03732_06732_0a732_0f732_18732_1f732_29732_38733_03742_06742_0a742_0f742_18742_1f742_29742_38743,
  0x02202_09202_17202_28203_02252_09252_17252_28253_022d2_092d2_172d2_282d3_022e2_092e2_172e2_282e3,
  0x03202_06202_0a202_0f202_18202_1f202_29202_38203_03252_06252_0a252_0f252_18252_1f252_29252_38253,
  0x032d2_062d2_0a2d2_0f2d2_182d2_1f2d2_292d2_382d3_032e2_062e2_0a2e2_0f2e2_182e2_1f2e2_292e2_382e3,
  0x012f2_162f3_01332_16333_01342_16343_01352_16353_01362_16363_01372_16373_01382_16383_01392_16393,
  0x022f2_092f2_172f2_282f3_02332_09332_17332_28333_02342_09342_17342_28343_02352_09352_17352_28353,
  0x032f2_062f2_0a2f2_0f2f2_182f2_1f2f2_292f2_382f3_03332_06332_0a332_0f332_18332_1f332_29332_38333,
  0x03342_06342_0a342_0f342_18342_1f342_29342_38343_03352_06352_0a352_0f352_18352_1f352_29352_38353,
  0x02362_09362_17362_28363_02372_09372_17372_28373_02382_09382_17382_28383_02392_09392_17392_28393,
  0x03362_06362_0a362_0f362_18362_1f362_29362_38363_03372_06372_0a372_0f372_18372_1f372_29372_38373,
  0x03382_06382_0a382_0f382_18382_1f382_29382_38383_03392_06392_0a392_0f392_18392_1f392_29392_38393,
  0x1a000_1b000_1d000_1e000_21000_22000_24000_25000_2b000_2e000_32000_35000_3a000_3d000_41000_44001,
  0x003d2_00412_005f2_00622_00642_00662_00672_00682_006c2_006d2_006e2_00702_00722_00752_26000_27000,
  0x013d2_163d3_01412_16413_015f2_165f3_01622_16623_01642_16643_01662_16663_01672_16673_01682_16683,
  0x023d2_093d2_173d2_283d3_02412_09412_17412_28413_025f2_095f2_175f2_285f3_02622_09622_17622_28623,
  0x033d2_063d2_0a3d2_0f3d2_183d2_1f3d2_293d2_383d3_03412_06412_0a412_0f412_18412_1f412_29412_38413,
  0x035f2_065f2_0a5f2_0f5f2_185f2_1f5f2_295f2_385f3_03622_06622_0a622_0f622_18622_1f622_29622_38623,
  0x02642_09642_17642_28643_02662_09662_17662_28663_02672_09672_17672_28673_02682_09682_17682_28683,
  0x03642_06642_0a642_0f642_18642_1f642_29642_38643_03662_06662_0a662_0f662_18662_1f662_29662_38663,
  0x03672_06672_0a672_0f672_18672_1f672_29672_38673_03682_06682_0a682_0f682_18682_1f682_29682_38683,
  0x016c2_166c3_016d2_166d3_016e2_166e3_01702_16703_01722_16723_01752_16753_003a2_00422_00432_00442,
  0x026c2_096c2_176c2_286c3_026d2_096d2_176d2_286d3_026e2_096e2_176e2_286e3_02702_09702_17702_28703,
  0x036c2_066c2_0a6c2_0f6c2_186c2_1f6c2_296c2_386c3_036d2_066d2_0a6d2_0f6d2_186d2_1f6d2_296d2_386d3,
  0x036e2_066e2_0a6e2_0f6e2_186e2_1f6e2_296e2_386e3_03702_06702_0a702_0f702_18702_1f702_29702_38703,
  0x02722_09722_17722_28723_02752_09752_17752_28753_013a2_163a3_01422_16423_01432_16433_01442_16443,
  0x03722_06722_0a722_0f722_18722_1f722_29722_38723_03752_06752_0a752_0f752_18752_1f752_29752_38753,
  0x023a2_093a2_173a2_283a3_02422_09422_17422_28423_02432_09432_17432_28433_02442_09442_17442_28443,
  0x033a2_063a2_0a3a2_0f3a2_183a2_1f3a2_293a2_383a3_03422_06422_0a422_0f422_18422_1f422_29422_38423,
  0x03432_06432_0a432_0f432_18432_1f432_29432_38433_03442_06442_0a442_0f442_18442_1f442_29442_38443,
  0x2c000_2d000_2f000_30000_33000_34000_36000_37000_3b000_3c000_3e000_3f000_42000_43000_45000_48001,
  0x00452_00462_00472_00482_00492_004a2_004b2_004c2_004d2_004e2_004f2_00502_00512_00522_00532_00542,
  0x01452_16453_01462_16463_01472_16473_01482_16483_01492_16493_014a2_164a3_014b2_164b3_014c2_164c3,
  0x02452_09452_17452_28453_02462_09462_17462_28463_02472_09472_17472_28473_02482_09482_17482_28483,
  0x03452_06452_0a452_0f452_18452_1f452_29452_38453_03462_06462_0a462_0f462_18462_1f462_29462_38463,
  0x03472_06472_0a472_0f472_18472_1f472_29472_38473_03482_06482_0a482_0f482_18482_1f482_29482_38483,
  0x02492_09492_17492_28493_024a2_094a2_174a2_284a3_024b2_094b2_174b2_284b3_024c2_094c2_174c2_284c3,
  0x03492_06492_0a492_0f492_18492_1f492_29492_38493_034a2_064a2_0a4a2_0f4a2_184a2_1f4a2_294a2_384a3,
  0x034b2_064b2_0a4b2_0f4b2_184b2_1f4b2_294b2_384b3_034c2_064c2_0a4c2_0f4c2_184c2_1f4c2_294c2_384c3,
  0x014d2_164d3_014e2_164e3_014f2_164f3_01502_16503_01512_16513_01522_16523_01532_16533_01542_16543,
  0x024d2_094d2_174d2_284d3_024e2_094e2_174e2_284e3_024f2_094f2_174f2_284f3_02502_09502_17502_28503,
  0x034d2_064d2_0a4d2_0f4d2_184d2_1f4d2_294d2_384d3_034e2_064e2_0a4e2_0f4e2_184e2_1f4e2_294e2_384e3,
  0x034f2_064f2_0a4f2_0f4f2_184f2_1f4f2_294f2_384f3_03502_06502_0a502_0f502_18502_1f502_29502_38503,
  0x02512_09512_17512_28513_02522_09522_17522_28523_02532_09532_17532_28533_02542_09542_17542_28543,
  0x03512_06512_0a512_0f512_18512_1f512_29512_38513_03522_06522_0a522_0f522_18522_1f522_29522_38523,
  0x03532_06532_0a532_0f532_18532_1f532_29532_38533_03542_06542_0a542_0f542_18542_1f542_29542_38543,
  0x00552_00562_00572_00592_006a2_006b2_00712_00762_00772_00782_00792_007a2_46000_47000_49000_4a001,
  0x01552_16553_01562_16563_01572_16573_01592_16593_016a2_166a3_016b2_166b3_01712_16713_01762_16763,
  0x02552_09552_17552_28553_02562_09562_17562_28563_02572_09572_17572_28573_02592_09592_17592_28593,
  0x03552_06552_0a552_0f552_18552_1f552_29552_38553_03562_06562_0a562_0f562_18562_1f562_29562_38563,
  0x03572_06572_0a572_0f572_18572_1f572_29572_38573_03592_06592_0a592_0f592_18592_1f592_29592_38593,
  0x026a2_096a2_176a2_286a3_026b2_096b2_176b2_286b3_02712_09712_17712_28713_02762_09762_17762_28763,
  0x036a2_066a2_0a6a2_0f6a2_186a2_1f6a2_296a2_386a3_036b2_066b2_0a6b2_0f6b2_186b2_1f6b2_296b2_386b3,
  0x03712_06712_0a712_0f712_18712_1f712_29712_38713_03762_06762_0a762_0f762_18762_1f762_29762_38763,
  0x01772_16773_01782_16783_01792_16793_017a2_167a3_00262_002a2_002c2_003b2_00582_005a2_4b000_4e000,
  0x02772_09772_17772_28773_02782_09782_17782_28783_02792_09792_17792_28793_027a2_097a2_177a2_287a3,
  0x03772_06772_0a772_0f772_18772_1f772_29772_38773_03782_06782_0a782_0f782_18782_1f782_29782_38783,
  0x03792_06792_0a792_0f792_18792_1f792_29792_38793_037a2_067a2_0a7a2_0f7a2_187a2_1f7a2_297a2_387a3,
  0x01262_16263_012a2_162a3_012c2_162c3_013b2_163b3_01582_16583_015a2_165a3_4c000_4d000_4f000_51000,
  0x02262_09262_17262_28263_022a2_092a2_172a2_282a3_022c2_092c2_172c2_282c3_023b2_093b2_173b2_283b3,
  0x03262_06262_0a262_0f262_18262_1f262_29262_38263_032a2_062a2_0a2a2_0f2a2_182a2_1f2a2_292a2_382a3,
  0x032c2_062c2_0a2c2_0f2c2_182c2_1f2c2_292c2_382c3_033b2_063b2_0a3b2_0f3b2_183b2_1f3b2_293b2_383b3,
  0x02582_09582_17582_28583_025a2_095a2_175a2_285a3_00212_00222_00282_00292_003f2_50000_52000_54000,
  0x03582_06582_0a582_0f582_18582_1f582_29582_38583_035a2_065a2_0a5a2_0f5a2_185a2_1f5a2_295a2_385a3,
  0x01212_16213_01222_16223_01282_16283_01292_16293_013f2_163f3_00272_002b2_007c2_53000_55000_58000,
  0x02212_09212_17212_28213_02222_09222_17222_28223_02282_09282_17282_28283_02292_09292_17292_28293,
  0x03212_06212_0a212_0f212_18212_1f212_29212_38213_03222_06222_0a222_0f222_18222_1f222_29222_38223,
  0x03282_06282_0a282_0f282_18282_1f282_29282_38283_03292_06292_0a292_0f292_18292_1f292_29292_38293,
  0x023f2_093f2_173f2_283f3_01272_16273_012b2_162b3_017c2_167c3_00232_003e2_56000_57000_59000_5a000,
  0x033f2_063f2_0a3f2_0f3f2_183f2_1f3f2_293f2_383f3_02272_09272_17272_28273_022b2_092b2_172b2_282b3,
  0x03272_06272_0a272_0f272_18272_1f272_29272_38273_032b2_062b2_0a2b2_0f2b2_182b2_1f2b2_292b2_382b3,
  0x027c2_097c2_177c2_287c3_01232_16233_013e2_163e3_00002_00242_00402_005b2_005d2_007e2_5b000_5c000,
  0x037c2_067c2_0a7c2_0f7c2_187c2_1f7c2_297c2_387c3_02232_09232_17232_28233_023e2_093e2_173e2_283e3,
  0x03232_06232_0a232_0f232_18232_1f232_29232_38233_033e2_063e2_0a3e2_0f3e2_183e2_1f3e2_293e2_383e3,
  0x01002_16003_01242_16243_01402_16403_015b2_165b3_015d2_165d3_017e2_167e3_005e2_007d2_5d000_5e000,
  0x02002_09002_17002_28003_02242_09242_17242_28243_02402_09402_17402_28403_025b2_095b2_175b2_285b3,
  0x03002_06002_0a002_0f002_18002_1f002_29002_38003_03242_06242_0a242_0f242_18242_1f242_29242_38243,
  0x03402_06402_0a402_0f402_18402_1f402_29402_38403_035b2_065b2_0a5b2_0f5b2_185b2_1f5b2_295b2_385b3,
  0x025d2_095d2_175d2_285d3_027e2_097e2_177e2_287e3_015e2_165e3_017d2_167d3_003c2_00602_007b2_5f000,
  0x035d2_065d2_0a5d2_0f5d2_185d2_1f5d2_295d2_385d3_037e2_067e2_0a7e2_0f7e2_187e2_1f7e2_297e2_387e3,
  0x025e2_095e2_175e2_285e3_027d2_097d2_177d2_287d3_013c2_163c3_01602_16603_017b2_167b3_60000_6e000,
  0x035e2_065e2_0a5e2_0f5e2_185e2_1f5e2_295e2_385e3_037d2_067d2_0a7d2_0f7d2_187d2_1f7d2_297d2_387d3,
  0x023c2_093c2_173c2_283c3_02602_09602_17602_28603_027b2_097b2_177b2_287b3_61000_65000_6f000_85000,
  0x033c2_063c2_0a3c2_0f3c2_183c2_1f3c2_293c2_383c3_03602_06602_0a602_0f602_18602_1f602_29602_38603,
  0x037b2_067b2_0a7b2_0f7b2_187b2_1f7b2_297b2_387b3_62000_63000_66000_69000_70000_77000_86000_99000,
  0x005c2_00c32_00d02_64000_67000_68000_6a000_6b000_71000_74000_78000_7e000_87000_8e000_9a000_a9000,
  0x015c2_165c3_01c32_16c33_01d02_16d03_00802_00822_00832_00a22_00b82_00c22_00e02_00e22_6c000_6d000,
  0x025c2_095c2_175c2_285c3_02c32_09c32_17c32_28c33_02d02_09d02_17d02_28d03_01802_16803_01822_16823,
  0x035c2_065c2_0a5c2_0f5c2_185c2_1f5c2_295c2_385c3_03c32_06c32_0ac32_0fc32_18c32_1fc32_29c32_38c33,
  0x03d02_06d02_0ad02_0fd02_18d02_1fd02_29d02_38d03_02802_09802_17802_28803_02822_09822_17822_28823,
  0x03802_06802_0a802_0f802_18802_1f802_29802_38803_03822_06822_0a822_0f822_18822_1f822_29822_38823,
  0x01832_16833_01a22_16a23_01b82_16b83_01c22_16c23_01e02_16e03_01e22_16e23_00992_00a12_00a72_00ac2,
  0x02832_09832_17832_28833_02a22_09a22_17a22_28a23_02b82_09b82_17b82_28b83_02c22_09c22_17c22_28c23,
  0x03832_06832_0a832_0f832_18832_1f832_29832_38833_03a22_06a22_0aa22_0fa22_18a22_1fa22_29a22_38a23,
  0x03b82_06b82_0ab82_0fb82_18b82_1fb82_29b82_38b83_03c22_06c22_0ac22_0fc22_18c22_1fc22_29c22_38c23,
  0x02e02_09e02_17e02_28e03_02e22_09e22_17e22_28e23_01992_16993_01a12_16a13_01a72_16a73_01ac2_16ac3,
  0x03e02_06e02_0ae02_0fe02_18e02_1fe02_29e02_38e03_03e22_06e22_0ae22_0fe22_18e22_1fe22_29e22_38e23,
  0x02992_09992_17992_28993_02a12_09a12_17a12_28a13_02a72_09a72_17a72_28a73_02ac2_09ac2_17ac2_28ac3,
  0x03992_06992_0a992_0f992_18992_1f992_29992_38993_03a12_06a12_0aa12_0fa12_18a12_1fa12_29a12_38a13,
  0x03a72_06a72_0aa72_0fa72_18a72_1fa72_29a72_38a73_03ac2_06ac2_0aac2_0fac2_18ac2_1fac2_29ac2_38ac3,
  0x72000_73000_75000_76000_79000_7b000_7f000_82000_88000_8b000_8f000_92000_9b000_a2000_aa000_b4000,
  0x00b02_00b12_00b32_00d12_00d82_00d92_00e32_00e52_00e62_7a000_7c000_7d000_80000_81000_83000_84000,
  0x01b02_16b03_01b12_16b13_01b32_16b33_01d12_16d13_01d82_16d83_01d92_16d93_01e32_16e33_01e52_16e53,
  0x02b02_09b02_17b02_28b03_02b12_09b12_17b12_28b13_02b32_09b32_17b32_28b33_02d12_09d12_17d12_28d13,
  0x03b02_06b02_0ab02_0fb02_18b02_1fb02_29b02_38b03_03b12_06b12_0ab12_0fb12_18b12_1fb12_29b12_38b13,
  0x03b32_06b32_0ab32_0fb32_18b32_1fb32_29b32_38b33_03d12_06d12_0ad12_0fd12_18d12_1fd12_29d12_38d13,
  0x02d82_09d82_17d82_28d83_02d92_09d92_17d92_28d93_02e32_09e32_17e32_28e33_02e52_09e52_17e52_28e53,
  0x03d82_06d82_0ad82_0fd82_18d82_1fd82_29d82_38d83_03d92_06d92_0ad92_0fd92_18d92_1fd92_29d92_38d93,
  0x03e32_06e32_0ae32_0fe32_18e32_1fe32_29e32_38e33_03e52_06e52_0ae52_0fe52_18e52_1fe52_29e52_38e53,
  0x01e62_16e63_00812_00842_00852_00862_00882_00922_009a2_009c2_00a02_00a32_00a42_00a92_00aa2_00ad2,
  0x02e62_09e62_17e62_28e63_01812_16813_01842_16843_01852_16853_01862_16863_01882_16883_01922_16923,
  0x03e62_06e62_0ae62_0fe62_18e62_1fe62_29e62_38e63_02812_09812_17812_28813_02842_09842_17842_28843,
  0x03812_06812_0a812_0f812_18812_1f812_29812_38813_03842_06842_0a842_0f842_18842_1f842_29842_38843,
  0x02852_09852_17852_28853_02862_09862_17862_28863_02882_09882_17882_28883_02922_09922_17922_28923,
  0x03852_06852_0a852_0f852_18852_1f852_29852_38853_03862_06862_0a862_0f862_18862_1f862_29862_38863,
  0x03882_06882_0a882_0f882_18882_1f882_29882_38883_03922_06922_0a922_0f922_18922_1f922_29922_38923,
  0x019a2_169a3_019c2_169c3_01a02_16a03_01a32_16a33_01a42_16a43_01a92_16a93_01aa2_16aa3_01ad2_16ad3,
  0x029a2_099a2_179a2_289a3_029c2_099c2_179c2_289c3_02a02_09a02_17a02_28a03_02a32_09a32_17a32_28a33,
  0x039a2_069a2_0a9a2_0f9a2_189a2_1f9a2_299a2_389a3_039c2_069c2_0a9c2_0f9c2_189c2_1f9c2_299c2_389c3,
  0x03a02_06a02_0aa02_0fa02_18a02_1fa02_29a02_38a03_03a32_06a32_0aa32_0fa32_18a32_1fa32_29a32_38a33,
  0x02a42_09a42_17a42_28a43_02a92_09a92_17a92_28a93_02aa2_09aa2_17aa2_28aa3_02ad2_09ad2_17ad2_28ad3,
  0x03a42_06a42_0aa42_0fa42_18a42_1fa42_29a42_38a43_03a92_06a92_0aa92_0fa92_18a92_1fa92_29a92_38a93,
  0x03aa2_06aa2_0aaa2_0faa2_18aa2_1faa2_29aa2_38aa3_03ad2_06ad2_0aad2_0fad2_18ad2_1fad2_29ad2_38ad3,
  0x89000_8a000_8c000_8d000_90000_91000_93000_96000_9c000_9f000_a3000_a6000_ab000_ae000_b5000_be000,
  0x00b22_00b52_00b92_00ba2_00bb2_00bd2_00be2_00c42_00c62_00e42_00e82_00e92_94000_95000_97000_98000,
  0x01b22_16b23_01b52_16b53_01b92_16b93_01ba2_16ba3_01bb2_16bb3_01bd2_16bd3_01be2_16be3_01c42_16c43,
  0x02b22_09b22_17b22_28b23_02b52_09b52_17b52_28b53_02b92_09b92_17b92_28b93_02ba2_09ba2_17ba2_28ba3,
  0x03b22_06b22_0ab22_0fb22_18b22_1fb22_29b22_38b23_03b52_06b52_0ab52_0fb52_18b52_1fb52_29b52_38b53,
  0x03b92_06b92_0ab92_0fb92_18b92_1fb92_29b92_38b93_03ba2_06ba2_0aba2_0fba2_18ba2_1fba2_29ba2_38ba3,
  0x02bb2_09bb2_17bb2_28bb3_02bd2_09bd2_17bd2_28bd3_02be2_09be2_17be2_28be3_02c42_09c42_17c42_28c43,
  0x03bb2_06bb2_0abb2_0fbb2_18bb2_1fbb2_29bb2_38bb3_03bd2_06bd2_0abd2_0fbd2_18bd2_1fbd2_29bd2_38bd3,
  0x03be2_06be2_0abe2_0fbe2_18be2_1fbe2_29be2_38be3_03c42_06c42_0ac42_0fc42_18c42_1fc42_29c42_38c43,
  0x01c62_16c63_01e42_16e43_01e82_16e83_01e92_16e93_00012_00872_00892_008a2_008b2_008c2_008d2_008f2,
  0x02c62_09c62_17c62_28c63_02e42_09e42_17e42_28e43_02e82_09e82_17e82_28e83_02e92_09e92_17e92_28e93,
  0x03c62_06c62_0ac62_0fc62_18c62_1fc62_29c62_38c63_03e42_06e42_0ae42_0fe42_18e42_1fe42_29e42_38e43,
  0x03e82_06e82_0ae82_0fe82_18e82_1fe82_29e82_38e83_03e92_06e92_0ae92_0fe92_18e92_1fe92_29e92_38e93,
  0x01012_16013_01872_16873_01892_16893_018a2_168a3_018b2_168b3_018c2_168c3_018d2_168d3_018f2_168f3,
  0x02012_09012_17012_28013_02872_09872_17872_28873_02892_09892_17892_28893_028a2_098a2_178a2_288a3,
  0x03012_06012_0a012_0f012_18012_1f012_29012_38013_03872_06872_0a872_0f872_18872_1f872_29872_38873,
  0x03892_06892_0a892_0f892_18892_1f892_29892_38893_038a2_068a2_0a8a2_0f8a2_188a2_1f8a2_298a2_388a3,
  0x028b2_098b2_178b2_288b3_028c2_098c2_178c2_288c3_028d2_098d2_178d2_288d3_028f2_098f2_178f2_288f3,
  0x038b2_068b2_0a8b2_0f8b2_188b2_1f8b2_298b2_388b3_038c2_068c2_0a8c2_0f8c2_188c2_1f8c2_298c2_388c3,
  0x038d2_068d2_0a8d2_0f8d2_188d2_1f8d2_298d2_388d3_038f2_068f2_0a8f2_0f8f2_188f2_1f8f2_298f2_388f3,
  0x9d000_9e000_a0000_a1000_a4000_a5000_a7000_a8000_ac000_ad000_af000_b1000_b6000_b9000_bf000_cf000,
  0x00932_00952_00962_00972_00982_009b2_009d2_009e2_00a52_00a62_00a82_00ae2_00af2_00b42_00b62_00b72,
  0x01932_16933_01952_16953_01962_16963_01972_16973_01982_16983_019b2_169b3_019d2_169d3_019e2_169e3,
  0x02932_09932_17932_28933_02952_09952_17952_28953_02962_09962_17962_28963_02972_09972_17972_28973,
  0x03932_06932_0a932_0f932_18932_1f932_29932_38933_03952_06952_0a952_0f952_18952_1f952_29952_38953,
  0x03962_06962_0a962_0f962_18962_1f962_29962_38963_03972_06972_0a972_0f972_18972_1f972_29972_38973,
  0x02982_09982_17982_28983_029b2_099b2_179b2_289b3_029d2_099d2_179d2_289d3_029e2_099e2_179e2_289e3,
  0x03982_06982_0a982_0f982_18982_1f982_29982_38983_039b2_069b2_0a9b2_0f9b2_189b2_1f9b2_299b2_389b3,
  0x039d2_069d2_0a9d2_0f9d2_189d2_1f9d2_299d2_389d3_039e2_069e2_0a9e2_0f9e2_189e2_1f9e2_299e2_389e3,
  0x01a52_16a53_01a62_16a63_01a82_16a83_01ae2_16ae3_01af2_16af3_01b42_16b43_01b62_16b63_01b72_16b73,
  0x02a52_09a52_17a52_28a53_02a62_09a62_17a62_28a63_02a82_09a82_17a82_28a83_02ae2_09ae2_17ae2_28ae3,
  0x03a52_06a52_0aa52_0fa52_18a52_1fa52_29a52_38a53_03a62_06a62_0aa62_0fa62_18a62_1fa62_29a62_38a63,
  0x03a82_06a82_0aa82_0fa82_18a82_1fa82_29a82_38a83_03ae2_06ae2_0aae2_0fae2_18ae2_1fae2_29ae2_38ae3,
  0x02af2_09af2_17af2_28af3_02b42_09b42_17b42_28b43_02b62_09b62_17b62_28b63_02b72_09b72_17b72_28b73,
  0x03af2_06af2_0aaf2_0faf2_18af2_1faf2_29af2_38af3_03b42_06b42_0ab42_0fb42_18b42_1fb42_29b42_38b43,
  0x03b62_06b62_0ab62_0fb62_18b62_1fb62_29b62_38b63_03b72_06b72_0ab72_0fb72_18b72_1fb72_29b72_38b73,
  0x00bc2_00bf2_00c52_00e72_00ef2_b0000_b2000_b3000_b7000_b8000_ba000_bb000_c0000_c7000_d0000_df000,
  0x01bc2_16bc3_01bf2_16bf3_01c52_16c53_01e72_16e73_01ef2_16ef3_00092_008e2_00902_00912_00942_009f2,
  0x02bc2_09bc2_17bc2_28bc3_02bf2_09bf2_17bf2_28bf3_02c52_09c52_17c52_28c53_02e72_09e72_17e72_28e73,
  0x03bc2_06bc2_0abc2_0fbc2_18bc2_1fbc2_29bc2_38bc3_03bf2_06bf2_0abf2_0fbf2_18bf2_1fbf2_29bf2_38bf3,
  0x03c52_06c52_0ac52_0fc52_18c52_1fc52_29c52_38c53_03e72_06e72_0ae72_0fe72_18e72_1fe72_29e72_38e73,
  0x02ef2_09ef2_17ef2_28ef3_01092_16093_018e2_168e3_01902_16903_01912_16913_01942_16943_019f2_169f3,
  0x03ef2_06ef2_0aef2_0fef2_18ef2_1fef2_29ef2_38ef3_02092_09092_17092_28093_028e2_098e2_178e2_288e3,
  0x03092_06092_0a092_0f092_18092_1f092_29092_38093_038e2_068e2_0a8e2_0f8e2_188e2_1f8e2_298e2_388e3,
  0x02902_09902_17902_28903_02912_09912_17912_28913_02942_09942_17942_28943_029f2_099f2_179f2_289f3,
  0x03902_06902_0a902_0f902_18902_1f902_29902_38903_03912_06912_0a912_0f912_18912_1f912_29912_38913,
  0x03942_06942_0a942_0f942_18942_1f942_29942_38943_039f2_069f2_0a9f2_0f9f2_189f2_1f9f2_299f2_389f3,
  0x00ab2_00ce2_00d72_00e12_00ec2_00ed2_bc000_bd000_c1000_c4000_c8000_cb000_d1000_d8000_e0000_ee000,
  0x01ab2_16ab3_01ce2_16ce3_01d72_16d73_01e12_16e13_01ec2_16ec3_01ed2_16ed3_00c72_00cf2_00ea2_00eb2,
  0x02ab2_09ab2_17ab2_28ab3_02ce2_09ce2_17ce2_28ce3_02d72_09d72_17d72_28d73_02e12_09e12_17e12_28e13,
  0x03ab2_06ab2_0aab2_0fab2_18ab2_1fab2_29ab2_38ab3_03ce2_06ce2_0ace2_0fce2_18ce2_1fce2_29ce2_38ce3,
  0x03d72_06d72_0ad72_0fd72_18d72_1fd72_29d72_38d73_03e12_06e12_0ae12_0fe12_18e12_1fe12_29e12_38e13,
  0x02ec2_09ec2_17ec2_28ec3_02ed2_09ed2_17ed2_28ed3_01c72_16c73_01cf2_16cf3_01ea2_16ea3_01eb2_16eb3,
  0x03ec2_06ec2_0aec2_0fec2_18ec2_1fec2_29ec2_38ec3_03ed2_06ed2_0aed2_0fed2_18ed2_1fed2_29ed2_38ed3,
  0x02c72_09c72_17c72_28c73_02cf2_09cf2_17cf2_28cf3_02ea2_09ea2_17ea2_28ea3_02eb2_09eb2_17eb2_28eb3,
  0x03c72_06c72_0ac72_0fc72_18c72_1fc72_29c72_38c73_03cf2_06cf2_0acf2_0fcf2_18cf2_1fcf2_29cf2_38cf3,
  0x03ea2_06ea2_0aea2_0fea2_18ea2_1fea2_29ea2_38ea3_03eb2_06eb2_0aeb2_0feb2_18eb2_1feb2_29eb2_38eb3,
  0xc2000_c3000_c5000_c6000_c9000_ca000_cc000_cd000_d2000_d5000_d9000_dc000_e1000_e7000_ef000_f6000,
  0x00c02_00c12_00c82_00c92_00ca2_00cd2_00d22_00d52_00da2_00db2_00ee2_00f02_00f22_00f32_00ff2_ce000,
  0x01c02_16c03_01c12_16c13_01c82_16c83_01c92_16c93_01ca2_16ca3_01cd2_16cd3_01d22_16d23_01d52_16d53,
  0x02c02_09c02_17c02_28c03_02c12_09c12_17c12_28c13_02c82_09c82_17c82_28c83_02c92_09c92_17c92_28c93,
  0x03c02_06c02_0ac02_0fc02_18c02_1fc02_29c02_38c03_03c12_06c12_0ac12_0fc12_18c12_1fc12_29c12_38c13,
  0x03c82_06c82_0ac82_0fc82_18c82_1fc82_29c82_38c83_03c92_06c92_0ac92_0fc92_18c92_1fc92_29c92_38c93,
  0x02ca2_09ca2_17ca2_28ca3_02cd2_09cd2_17cd2_28cd3_02d22_09d22_17d22_28d23_02d52_09d52_17d52_28d53,
  0x03ca2_06ca2_0aca2_0fca2_18ca2_1fca2_29ca2_38ca3_03cd2_06cd2_0acd2_0fcd2_18cd2_1fcd2_29cd2_38cd3,
  0x03d22_06d22_0ad22_0fd22_18d22_1fd22_29d22_38d23_03d52_06d52_0ad52_0fd52_18d52_1fd52_29d52_38d53,
  0x01da2_16da3_01db2_16db3_01ee2_16ee3_01f02_16f03_01f22_16f23_01f32_16f33_01ff2_16ff3_00cb2_00cc2,
  0x02da2_09da2_17da2_28da3_02db2_09db2_17db2_28db3_02ee2_09ee2_17ee2_28ee3_02f02_09f02_17f02_28f03,
  0x03da2_06da2_0ada2_0fda2_18da2_1fda2_29da2_38da3_03db2_06db2_0adb2_0fdb2_18db2_1fdb2_29db2_38db3,
  0x03ee2_06ee2_0aee2_0fee2_18ee2_1fee2_29ee2_38ee3_03f02_06f02_0af02_0ff02_18f02_1ff02_29f02_38f03,
  0x02f22_09f22_17f22_28f23_02f32_09f32_17f32_28f33_02ff2_09ff2_17ff2_28ff3_01cb2_16cb3_01cc2_16cc3,
  0x03f22_06f22_0af22_0ff22_18f22_1ff22_29f22_38f23_03f32_06f32_0af32_0ff32_18f32_1ff32_29f32_38f33,
  0x03ff2_06ff2_0aff2_0fff2_18ff2_1fff2_29ff2_38ff3_02cb2_09cb2_17cb2_28cb3_02cc2_09cc2_17cc2_28cc3,
  0x03cb2_06cb2_0acb2_0fcb2_18cb2_1fcb2_29cb2_38cb3_03cc2_06cc2_0acc2_0fcc2_18cc2_1fcc2_29cc2_38cc3,
  0xd3000_d4000_d6000_d7000_da000_db000_dd000_de000_e2000_e4000_e8000_eb000_f0000_f3000_f7000_fa000,
  0x00d32_00d42_00d62_00dd2_00de2_00df2_00f12_00f42_00f52_00f62_00f72_00f82_00fa2_00fb2_00fc2_00fd2,
  0x01d32_16d33_01d42_16d43_01d62_16d63_01dd2_16dd3_01de2_16de3_01df2_16df3_01f12_16f13_01f42_16f43,
  0x02d32_09d32_17d32_28d33_02d42_09d42_17d42_28d43_02d62_09d62_17d62_28d63_02dd2_09dd2_17dd2_28dd3,
  0x03d32_06d32_0ad32_0fd32_18d32_1fd32_29d32_38d33_03d42_06d42_0ad42_0fd42_18d42_1fd42_29d42_38d43,
  0x03d62_06d62_0ad62_0fd62_18d62_1fd62_29d62_38d63_03dd2_06dd2_0add2_0fdd2_18dd2_1fdd2_29dd2_38dd3,
  0x02de2_09de2_17de2_28de3_02df2_09df2_17df2_28df3_02f12_09f12_17f12_28f13_02f42_09f42_17f42_28f43,
  0x03de2_06de2_0ade2_0fde2_18de2_1fde2_29de2_38de3_03df2_06df2_0adf2_0fdf2_18df2_1fdf2_29df2_38df3,
  0x03f12_06f12_0af12_0ff12_18f12_1ff12_29f12_38f13_03f42_06f42_0af42_0ff42_18f42_1ff42_29f42_38f43,
  0x01f52_16f53_01f62_16f63_01f72_16f73_01f82_16f83_01fa2_16fa3_01fb2_16fb3_01fc2_16fc3_01fd2_16fd3,
  0x02f52_09f52_17f52_28f53_02f62_09f62_17f62_28f63_02f72_09f72_17f72_28f73_02f82_09f82_17f82_28f83,
  0x03f52_06f52_0af52_0ff52_18f52_1ff52_29f52_38f53_03f62_06f62_0af62_0ff62_18f62_1ff62_29f62_38f63,
  0x03f72_06f72_0af72_0ff72_18f72_1ff72_29f72_38f73_03f82_06f82_0af82_0ff82_18f82_1ff82_29f82_38f83,
  0x02fa2_09fa2_17fa2_28fa3_02fb2_09fb2_17fb2_28fb3_02fc2_09fc2_17fc2_28fc3_02fd2_09fd2_17fd2_28fd3,
  0x03fa2_06fa2_0afa2_0ffa2_18fa2_1ffa2_29fa2_38fa3_03fb2_06fb2_0afb2_0ffb2_18fb2_1ffb2_29fb2_38fb3,
  0x03fc2_06fc2_0afc2_0ffc2_18fc2_1ffc2_29fc2_38fc3_03fd2_06fd2_0afd2_0ffd2_18fd2_1ffd2_29fd2_38fd3,
  0x00fe2_e3000_e5000_e6000_e9000_ea000_ec000_ed000_f1000_f2000_f4000_f5000_f8000_f9000_fb000_fc000,
  0x01fe2_16fe3_00022_00032_00042_00052_00062_00072_00082_000b2_000c2_000e2_000f2_00102_00112_00122,
  0x02fe2_09fe2_17fe2_28fe3_01022_16023_01032_16033_01042_16043_01052_16053_01062_16063_01072_16073,
  0x03fe2_06fe2_0afe2_0ffe2_18fe2_1ffe2_29fe2_38fe3_02022_09022_17022_28023_02032_09032_17032_28033,
  0x03022_06022_0a022_0f022_18022_1f022_29022_38023_03032_06032_0a032_0f032_18032_1f032_29032_38033,
  0x02042_09042_17042_28043_02052_09052_17052_28053_02062_09062_17062_28063_02072_09072_17072_28073,
  0x03042_06042_0a042_0f042_18042_1f042_29042_38043_03052_06052_0a052_0f052_18052_1f052_29052_38053,
  0x03062_06062_0a062_0f062_18062_1f062_29062_38063_03072_06072_0a072_0f072_18072_1f072_29072_38073,
  0x01082_16083_010b2_160b3_010c2_160c3_010e2_160e3_010f2_160f3_01102_16103_01112_16113_01122_16123,
  0x02082_09082_17082_28083_020b2_090b2_170b2_280b3_020c2_090c2_170c2_280c3_020e2_090e2_170e2_280e3,
  0x03082_06082_0a082_0f082_18082_1f082_29082_38083_030b2_060b2_0a0b2_0f0b2_180b2_1f0b2_290b2_380b3,
  0x030c2_060c2_0a0c2_0f0c2_180c2_1f0c2_290c2_380c3_030e2_060e2_0a0e2_0f0e2_180e2_1f0e2_290e2_380e3,
  0x020f2_090f2_170f2_280f3_02102_09102_17102_28103_02112_09112_17112_28113_02122_09122_17122_28123,
  0x030f2_060f2_0a0f2_0f0f2_180f2_1f0f2_290f2_380f3_03102_06102_0a102_0f102_18102_1f102_29102_38103,
  0x03112_06112_0a112_0f112_18112_1f112_29112_38113_03122_06122_0a122_0f122_18122_1f122_29122_38123,
  0x00132_00142_00152_00172_00182_00192_001a2_001b2_001c2_001d2_001e2_001f2_007f2_00dc2_00f92_fd000,
  0x01132_16133_01142_16143_01152_16153_01172_16173_01182_16183_01192_16193_011a2_161a3_011b2_161b3,
  0x02132_09132_17132_28133_02142_09142_17142_28143_02152_09152_17152_28153_02172_09172_17172_28173,
  0x03132_06132_0a132_0f132_18132_1f132_29132_38133_03142_06142_0a142_0f142_18142_1f142_29142_38143,
  0x03152_06152_0a152_0f152_18152_1f152_29152_38153_03172_06172_0a172_0f172_18172_1f172_29172_38173,
  0x02182_09182_17182_28183_02192_09192_17192_28193_021a2_091a2_171a2_281a3_021b2_091b2_171b2_281b3,
  0x03182_06182_0a182_0f182_18182_1f182_29182_38183_03192_06192_0a192_0f192_18192_1f192_29192_38193,
  0x031a2_061a2_0a1a2_0f1a2_181a2_1f1a2_291a2_381a3_031b2_061b2_0a1b2_0f1b2_181b2_1f1b2_291b2_381b3,
  0x011c2_161c3_011d2_161d3_011e2_161e3_011f2_161f3_017f2_167f3_01dc2_16dc3_01f92_16f93_fe000_ff000,
  0x021c2_091c2_171c2_281c3_021d2_091d2_171d2_281d3_021e2_091e2_171e2_281e3_021f2_091f2_171f2_281f3,
  0x031c2_061c2_0a1c2_0f1c2_181c2_1f1c2_291c2_381c3_031d2_061d2_0a1d2_0f1d2_181d2_1f1d2_291d2_381d3,
  0x031e2_061e2_0a1e2_0f1e2_181e2_1f1e2_291e2_381e3_031f2_061f2_0a1f2_0f1f2_181f2_1f1f2_291f2_381f3,
  0x027f2_097f2_177f2_287f3_02dc2_09dc2_17dc2_28dc3_02f92_09f92_17f92_28f93_000a2_000d2_00162_00004,
  0x037f2_067f2_0a7f2_0f7f2_187f2_1f7f2_297f2_387f3_03dc2_06dc2_0adc2_0fdc2_18dc2_1fdc2_29dc2_38dc3,
  0x03f92_06f92_0af92_0ff92_18f92_1ff92_29f92_38f93_010a2_160a3_010d2_160d3_01162_16163_00004_00005,
  0x020a2_090a2_170a2_280a3_020d2_090d2_170d2_280d3_02162_09162_17162_28163_00004_00004_00004_00005,
  0x030a2_060a2_0a0a2_0f0a2_180a2_1f0a2_290a2_380a3_030d2_060d2_0a0d2_0f0d2_180d2_1f0d2_290d2_380d3,
  0x03162_06162_0a162_0f162_18162_1f162_29162_38163_00004_00004_00004_00004_00004_00004_00004_00005]

/-- `DECODE_TABLE[state][input]`; `none` is an index out of bounds. -/
def lookup (state input : Nat) : Option (Nat × UInt8 × Nat) :=
  if input < 16 then
    DECODE_TABLE[state]?.map fun row =>
      let entry := row / 16 ^ (5 * (15 - input)) % 16 ^ 5
      (entry / 16 ^ 3, UInt8.ofNat (entry / 16 % 16 ^ 2), entry % 16)
  else none

structure Decoder where
  state : Nat
  maybeEos : Bool

namespace Decoder

def new : Decoder := ⟨0, false⟩

def decode4 (d : Decoder) (input : Nat) : Option (Except DecoderError (Option UInt8 × Decoder)) := do
  let (next, byte, flags) ← lookup d.state input
  if flags &&& ERROR = ERROR then some (.error .invalidHuffmanCode)
  else
    some (.ok (if flags &&& DECODED = DECODED then some byte else none,
      ⟨next, decide (flags &&& MAYBE_EOS = MAYBE_EOS)⟩))

def isFinal (d : Decoder) : Bool := d.state == 0 || d.maybeEos

end Decoder

/-- The loop of `decode`, with the bytes it has put into `buf`, also when it fails. -/
def decodeBytes : Bytes → Decoder → Bytes → Option (Except DecoderError Decoder × Bytes)
  | [], d, buf => some (.ok d, buf)
  | b :: src, d, buf => do
    match ← d.decode4 (b.toNat / 16) with
    | .error e => some (.error e, buf)
    | .ok (high, d) =>
      let buf := buf ++ high.toList
      match ← d.decode4 (b.toNat % 16) with
      | .error e => some (.error e, buf)
      | .ok (low, d) => decodeBytes src d (buf ++ low.toList)

def decode (src buf : Bytes) : Option (Except DecoderError Bytes × Bytes) := do
  match ← decodeBytes src Decoder.new buf with
  | (.error e, buf) => some (.error e, buf)
  | (.ok d, buf) =>
    if d.isFinal then some (.ok buf, []) else some (.error .invalidHuffmanCode, buf)

structure Encoder where
  bits : Nat
  bitsLeft : Nat
  dst : Bytes

namespace Encoder

def new (dst : Bytes) : Encoder := ⟨0, 40, dst⟩

/-- The loop that writes out whole bytes; more than five rounds are never needed. -/
def drain : Nat → Encoder → Option Encoder
  | 0, e => if e.bitsLeft ≤ 32 then none else some e
  | rounds + 1, e =>
    if e.bitsLeft ≤ 32 then
      drain rounds
        ⟨(e.bits <<< 8) % 2 ^ 64, e.bitsLeft + 8, e.dst ++ [UInt8.ofNat (e.bits >>> 32)]⟩
    else some e

/-- `none` is an underflow of `bits_left` or of the width of a shift. -/
def put (e : Encoder) (b : UInt8) : Option Encoder := do
  let (nbits, code) ← ENCODE_TABLE[b.toNat]?
  if nbits ≤ e.bitsLeft ∧ e.bitsLeft - nbits < 64 then
    drain 5
      ⟨e.bits ||| (code <<< (e.bitsLeft - nbits)) % 2 ^ 64, e.bitsLeft - nbits, e.dst⟩
  else none

def finish (e : Encoder) : Option Bytes :=
  if e.bitsLeft ≠ 40 then
    if e.bitsLeft < 64 then
      let bits := e.bits ||| (1 <<< e.bitsLeft - 1)
      some (e.dst ++ [UInt8.ofNat (bits >>> 32)])
    else none
  else some e.dst

end Encoder

def encode (src dst : Bytes) : Option Bytes :=
  (src.foldlM Encoder.put (Encoder.new dst)).bind Encoder.finish

theorem lookup_next : ∀ row ∈ DECODE_TABLE, ∀ input < 16,
    row / 16 ^ (5 * (15 - input)) % 16 ^ 5 / 16 ^ 3 < DECODE_TABLE.length := by
  decide +kernel

theorem lookup_some {state input : Nat} (hstate : state < DECODE_TABLE.length) (hinput : input < 16) :
    ∃ next byte flags, lookup state input = some (next, byte, flags) ∧ next < DECODE_TABLE.length := by
  have hrow := lookup_next _ (List.getElem_mem hstate) input hinput
  exact ⟨_, _, _, by rw [lookup, if_pos hinput, List.getElem?_eq_getElem hstate]; rfl, hrow⟩

namespace Decoder

theorem decode4_some {d : Decoder} {input : Nat} (hd : d.state < DECODE_TABLE.length)
    (hinput : input < 16) :
    d.decode4 input = some (.error .invalidHuffmanCode) ∨
      ∃ out d', d.decode4 input = some (.ok (out, d')) ∧ d'.state < DECODE_TABLE.length := by
  obtain ⟨next, byte, flags, hlookup, hnext⟩ := lookup_some hd hinput
  rw [decode4, hlookup]
  by_cases hflags : flags &&& ERROR = ERROR
  · exact .inl (if_pos hflags)
  · exact .inr ⟨_, _, if_neg hflags, hnext⟩

end Decoder

theorem decodeBytes_some {d : Decoder} (hd : d.state < DECODE_TABLE.length) (src buf : Bytes) :
    ∃ r, decodeBytes src d buf = some r ∧ ∀ e, r.1 = .error e → e = .invalidHuffmanCode := by
  induction src generalizing d buf with
  | nil => exact ⟨_, rfl, nofun⟩
  | cons b src ih =>
    have hb : b.toNat < 256 := b.toNat_lt
    rw [decodeBytes]
    have hhigh : b.toNat / 16 < 16 := by omega
    have hlow : b.toNat % 16 < 16 := by omega
    rcases d.decode4_some hd hhigh with h | ⟨high, d₁, h, hd₁⟩
    · rw [h]
      exact ⟨_, rfl, fun e he => (Except.error.inj he).symm⟩
    · rw [h]
      rcases d₁.decode4_some hd₁ hlow with h' | ⟨low, d₂, h', hd₂⟩
      · simp only [Option.bind_eq_bind, Option.bind_some, h']
        exact ⟨_, rfl, fun e he => (Except.error.inj he).symm⟩
      · simp only [Option.bind_eq_bind, Option.bind_some, h']
        exact ih hd₂ _

/-- Decoding never leaves the table; on success nothing stays in the buffer. -/
theorem decode_some (src buf : Bytes) :
    (∃ str, decode src buf = some (.ok str, [])) ∨
      ∃ left, decode src buf = some (.error .invalidHuffmanCode, left) := by
  have hnew : Decoder.new.state < DECODE_TABLE.length := by decide +kernel
  obtain ⟨⟨r, left⟩, hr, herr⟩ := decodeBytes_some hnew src buf
  rw [decode, hr]
  cases r with
  | error e =>
    obtain rfl := herr e rfl
    exact .inr ⟨left, rfl⟩
  | ok d =>
    by_cases hfinal : d.isFinal
    · exact .inl ⟨left, if_pos hfinal⟩
    · exact .inr ⟨left, if_neg hfinal⟩

theorem decode_left {src buf str left : Bytes} (h : decode src buf = some (.ok str, left)) :
    left = [] := by
  rcases decode_some src buf with ⟨str', h'⟩ | ⟨left', h'⟩
  · rw [h'] at h
    cases h
    rfl
  · rw [h'] at h
    cases h

end TwoPlz.Hpack.Huffman
