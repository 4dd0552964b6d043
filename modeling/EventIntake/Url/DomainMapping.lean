import EventIntake.Text.CharSet
import EventIntake.Text.CodeTable

/-!
# Characters of domain names

What the characters of an internationalized domain name are mapped to before the name is looked up,
which are left out, and which must not occur. Any other character stands for itself.
-/

namespace EventIntake.Url

open EventIntake.Text (CharSet CodeTable)

/-- The characters that stand for others. -/
def mapped : CodeTable := .ofLines [
  "41*1a=61 a0=20 a8=20+308 aa=61 af=20+304 b2=32,33,20+301,3bc b8=20+327,31,6f",
  "bc=31+2044+34,31+2044+32,33+2044+34 c0*17=e0 d8*7=f8 100*18/2=101 130=69+307",
  "132=69+6a,69+6a,135 136=137 139*3/2=13a 13f=6c+b7,6c+b7 141*4/2=142 149=2bc+6e 14a*17/2=14b",
  "178=ff 179*3/2=17a 17f=73 181=253,183 184=185 186=254,188 189=256,257,18c",
  "18e=1dd,259,25b,192 193=260,263 196=269,268,199 19c=26f,272 19f=275 1a0*3/2=1a1 1a6=280,1a8",
  "1a9=283 1ac=1ad 1ae=288,1b0 1b1=28a,28b,1b4 1b5=1b6 1b7=292,1b9 1bc=1bd",
  "1c4=64+17e,64+17e,64+17e,6c+6a,6c+6a,6c+6a,6e+6a,6e+6a,6e+6a 1cd*8/2=1ce 1de*9/2=1df",
  "1f1=64+7a,64+7a,64+7a,1f5 1f6=195,1bf 1f8*14/2=1f9 220=19e 222*9/2=223 23a=2c65,23c",
  "23d=19a,2c66 241=242 243=180,289,28c 246*5/2=247 2b0=68,266,6a,72,279,27b,281,77,79",
  "2d8=20+306,20+307,20+30a,20+328,20+303,20+30b 2e0=263,6c,73,78,295 340=300,301",
  "343=313,308+301,3b9 370=371 372=373 374=2b9 376=377 37a=20+3b9 37e=3b,3f3",
  "384=20+301,20+308+301,3ac,b7 388*3=3ad 38c=3cc 38e=3cd,3ce 391*11=3b1 3a3*9=3c3",
  "3cf=3d7,3b2,3b8,3c5,3cd,3cb,3c6,3c0 3d8*c/2=3d9 3f0=3ba,3c1,3c3 3f4=3b8,3b5 3f7=3f8",
  "3f9=3c3,3fb 3fd*3=37b 400*10=450 410*20=430 460*11/2=461 48a*1b/2=48b 4c0=4cf 4c1*7/2=4c2",
  "4d0*30/2=4d1 531*26=561 587=565+582 675=627+674,648+674,6c7+674,64a+674",
  "958=915+93c,916+93c,917+93c,91c+93c,921+93c,922+93c,92b+93c,92f+93c 9dc=9a1+9bc,9a2+9bc",
  "9df=9af+9bc a33=a32+a3c a36=a38+a3c a59=a16+a3c,a17+a3c,a1c+a3c a5e=a2b+a3c",
  "b5c=b21+b3c,b22+b3c e33=e4d+e32 eb3=ecd+eb2 edc=eab+e99,eab+ea1 f0c=f0b f43=f42+fb7",
  "f4d=f4c+fb7 f52=f51+fb7 f57=f56+fb7 f5c=f5b+fb7 f69=f40+fb5 f73=f71+f72",
  "f75=f71+f74,fb2+f80,fb2+f71+f80,fb3+f80,fb3+f71+f80 f81=f71+f80 f93=f92+fb7 f9d=f9c+fb7",
  "fa2=fa1+fb7 fa7=fa6+fb7 fac=fab+fb7 fb9=f90+fb5 10a0*26=2d00 10c7=2d27 10cd=2d2d 10fc=10dc",
  "13f8*6=13f0 1c80=432,434,43e,441,442,442,44a,463,a64b,1c8a 1c90*2b=10d0 1cbd*3=10fd",
  "1d2c=61,e6,62 1d30=64,65,1dd 1d33*8=67",
  "1d3c=6f,223,70,72,74,75,77,61,250,251,1d02,62,64,65,259,25b,25c,67",
  "1d4f=6b,6d,14b,6f,254,1d16,1d17,70,74,75,1d1d,26f,76,1d25 1d5d*3=3b2",
  "1d60=3c6,3c7,69,72,75,76,3b2,3b3,3c1,3c6,3c7 1d78=43d 1d9b=252,63,255,f0,25c,66,25f,261,265",
  "1da4*3=268 1da7=1d7b,29d,26d,1d85,29f,271,270 1dae*4=272",
  "1db2=278,282,283,1ab,289,28a,1d1c,28b,28c,7a 1dbc*3=290 1dbf=3b8 1e00*4b/2=1e01",
  "1e9a=61+2be,1e61 1e9e=df 1ea0*30/2=1ea1 1f08*8=1f00 1f18*6=1f10 1f28*8=1f20 1f38*8=1f30",
  "1f48*6=1f40 1f59*4/2=1f51 1f68*8=1f60 1f71=3ac 1f73=3ad 1f75=3ae 1f77=3af 1f79=3cc 1f7b=3cd",
  "1f7d=3ce",
  "1f80=1f00+3b9,1f01+3b9,1f02+3b9,1f03+3b9,1f04+3b9,1f05+3b9,1f06+3b9,1f07+3b9,1f00+3b9",
  "1f89=1f01+3b9,1f02+3b9,1f03+3b9,1f04+3b9,1f05+3b9,1f06+3b9,1f07+3b9,1f20+3b9,1f21+3b9",
  "1f92=1f22+3b9,1f23+3b9,1f24+3b9,1f25+3b9,1f26+3b9,1f27+3b9,1f20+3b9,1f21+3b9,1f22+3b9",
  "1f9b=1f23+3b9,1f24+3b9,1f25+3b9,1f26+3b9,1f27+3b9,1f60+3b9,1f61+3b9,1f62+3b9,1f63+3b9",
  "1fa4=1f64+3b9,1f65+3b9,1f66+3b9,1f67+3b9,1f60+3b9,1f61+3b9,1f62+3b9,1f63+3b9,1f64+3b9",
  "1fad=1f65+3b9,1f66+3b9,1f67+3b9 1fb2=1f70+3b9,3b1+3b9,3ac+3b9",
  "1fb7=1fb6+3b9,1fb0,1fb1,1f70,3ac,3b1+3b9,20+313,3b9,20+313,20+342,20+308+342,1f74+3b9",
  "1fc3=3b7+3b9,3ae+3b9",
  "1fc7=1fc6+3b9,1f72,3ad,1f74,3ae,3b7+3b9,20+313+300,20+313+301,20+313+342 1fd3=390",
  "1fd8=1fd0,1fd1,1f76,3af 1fdd=20+314+300,20+314+301,20+314+342 1fe3=3b0",
  "1fe8=1fe0,1fe1,1f7a,3cd,1fe5,20+308+300,20+308+301,60 1ff2=1f7c+3b9,3c9+3b9,3ce+3b9",
  "1ff7=1ff6+3b9,1f78,3cc,1f7c,3ce,3c9+3b9,20+301,20+314 2000=20,20,20,20,20,20,20,20,20,20,20",
  "2011=2010 2017=20+333 202f=20 2033=2032+2032,2032+2032+2032 2036=2035+2035,2035+2035+2035",
  "203c=21+21 203e=20+305 2047=3f+3f,3f+21,21+3f 2057=2032+2032+2032+2032 205f=20 2070=30,69",
  "2074*6=34 207a=2b,2212,3d,28,29,6e 2080*a=30 208a=2b,2212,3d,28,29 2090=61,65,6f,78,259,68",
  "2096*4=6b 209a=70,73,74 20a8=72+73 2100=61+2f+63,61+2f+73,63,b0+63",
  "2105=63+2f+6f,63+2f+75,25b 2109=b0+66,67,68,68,68,68,127,69,69,6c,6c 2115=6e,6e+6f 2119*3=70",
  "211c=72,72 2120=73+6d,74+65+6c,74+6d 2124=7a 2126=3c9 2128=7a 212a=6b,e5,62,63",
  "212f=65,65,66,214e,6d,6f 2135*4=5d0 2139=69 213b=66+61+78,3c0,3b3,3b3,3c0,2211",
  "2145=64,64,65,69,6a",
  "2150=31+2044+37,31+2044+39,31+2044+31+30,31+2044+33,32+2044+33,31+2044+35,32+2044+35",
  "2157=33+2044+35,34+2044+35,31+2044+36,35+2044+36,31+2044+38,33+2044+38,35+2044+38,37+2044+38",
  "215f=31+2044,69,69+69,69+69+69,69+76,76,76+69,76+69+69,76+69+69+69,69+78,78,78+69,78+69+69",
  "216c=6c,63,64,6d,69,69+69,69+69+69,69+76,76,76+69,76+69+69,76+69+69+69,69+78,78,78+69",
  "217b=78+69+69,6c,63,64,6d 2183=2184 2189=30+2044+33 222c=222b+222b,222b+222b+222b",
  "222f=222e+222e,222e+222e+222e 2329=3008,3009 2460*9=31",
  "2469=31+30,31+31,31+32,31+33,31+34,31+35,31+36,31+37,31+38,31+39,32+30,28+31+29,28+32+29",
  "2476=28+33+29,28+34+29,28+35+29,28+36+29,28+37+29,28+38+29,28+39+29,28+31+30+29,28+31+31+29",
  "247f=28+31+32+29,28+31+33+29,28+31+34+29,28+31+35+29,28+31+36+29,28+31+37+29,28+31+38+29",
  "2486=28+31+39+29,28+32+30+29",
  "249c=28+61+29,28+62+29,28+63+29,28+64+29,28+65+29,28+66+29,28+67+29,28+68+29,28+69+29",
  "24a5=28+6a+29,28+6b+29,28+6c+29,28+6d+29,28+6e+29,28+6f+29,28+70+29,28+71+29,28+72+29",
  "24ae=28+73+29,28+74+29,28+75+29,28+76+29,28+77+29,28+78+29,28+79+29,28+7a+29 24b6*1a=61",
  "24d0*1a=61 24ea=30 2a0c=222b+222b+222b+222b 2a74=3a+3a+3d,3d+3d,3d+3d+3d 2adc=2add+338",
  "2c00*30=2c30 2c60=2c61 2c62=26b,1d7d,27d 2c67*3/2=2c68 2c6d=251,271,250,252 2c72=2c73",
  "2c75=2c76 2c7c=6a,76,23f,240 2c80*32/2=2c81 2ceb=2cec 2ced=2cee 2cf2=2cf3 2d6f=2d61",
  "2e9f=6bcd 2ef3=9f9f",
  "2f00=4e00,4e28,4e36,4e3f,4e59,4e85,4e8c,4ea0,4eba,513f,5165,516b,5182,5196,51ab,51e0,51f5",
  "2f11=5200,529b,52f9,5315,531a,5338,5341,535c,5369,5382,53b6,53c8,53e3,56d7,571f,58eb,5902",
  "2f22=590a,5915,5927,5973,5b50,5b80,5bf8,5c0f,5c22,5c38,5c6e,5c71,5ddb,5de5,5df1,5dfe,5e72",
  "2f33=5e7a,5e7f,5ef4,5efe,5f0b,5f13,5f50,5f61,5f73,5fc3,6208,6236,624b,652f,6534,6587,6597",
  "2f44=65a4,65b9,65e0,65e5,66f0,6708,6728,6b20,6b62,6b79,6bb3,6bcb,6bd4,6bdb,6c0f,6c14,6c34",
  "2f55=706b,722a,7236,723b,723f,7247,7259,725b,72ac,7384,7389,74dc,74e6,7518,751f,7528,7530",
  "2f66=758b,7592,7676,767d,76ae,76bf,76ee,77db,77e2,77f3,793a,79b8,79be,7a74,7acb,7af9,7c73",
  "2f77=7cf8,7f36,7f51,7f8a,7fbd,8001,800c,8012,8033,807f,8089,81e3,81ea,81f3,81fc,820c,821b",
  "2f88=821f,826e,8272,8278,864d,866b,8840,884c,8863,897e,898b,89d2,8a00,8c37,8c46,8c55,8c78",
  "2f99=8c9d,8d64,8d70,8db3,8eab,8eca,8f9b,8fb0,8fb5,9091,9149,91c6,91cc,91d1,9577,9580,961c",
  "2faa=96b6,96b9,96e8,9751,975e,9762,9769,97cb,97ed,97f3,9801,98a8,98db,98df,9996,9999,99ac",
  "2fbb=9aa8,9ad8,9adf,9b25,9b2f,9b32,9b3c,9b5a,9ce5,9e75,9e7f,9ea5,9ebb,9ec3,9ecd,9ed1,9ef9",
  "2fcc=9efd,9f0e,9f13,9f20,9f3b,9f4a,9f52,9f8d,9f9c,9fa0 3000=20 3002=2e 3036=3012",
  "3038=5341,5344,5345 309b=20+3099,20+309a 309f=3088+308a 30ff=30b3+30c8",
  "3131=1100,1101,11aa,1102,11ac,11ad 3137*3=1103 313a*6=11b0 3140=111a 3141*3=1106 3144=1121",
  "3145*a=1109 314f*15=1161",
  "3165=1114,1115,11c7,11c8,11cc,11ce,11d3,11d7,11d9,111c,11dd,11df,111d,111e,1120,1122,1123",
  "3176=1127,1129 3178*5=112b 317d=1132,1136,1140,1147,114c,11f1,11f2 3184*3=1157",
  "3187=1184,1185,1188,1191,1192,1194,119e,11a1",
  "3192=4e00,4e8c,4e09,56db,4e0a,4e2d,4e0b,7532,4e59,4e19,4e01,5929,5730,4eba",
  "3200=28+1100+29,28+1102+29,28+1103+29,28+1105+29,28+1106+29,28+1107+29,28+1109+29,28+110b+29",
  "3208=28+110c+29,28+110e+29,28+110f+29,28+1110+29,28+1111+29,28+1112+29,28+ac00+29,28+b098+29",
  "3210=28+b2e4+29,28+b77c+29,28+b9c8+29,28+bc14+29,28+c0ac+29,28+c544+29,28+c790+29,28+cc28+29",
  "3218=28+ce74+29,28+d0c0+29,28+d30c+29,28+d558+29,28+c8fc+29,28+c624+c804+29,28+c624+d6c4+29",
  "3220=28+4e00+29,28+4e8c+29,28+4e09+29,28+56db+29,28+4e94+29,28+516d+29,28+4e03+29,28+516b+29",
  "3228=28+4e5d+29,28+5341+29,28+6708+29,28+706b+29,28+6c34+29,28+6728+29,28+91d1+29,28+571f+29",
  "3230=28+65e5+29,28+682a+29,28+6709+29,28+793e+29,28+540d+29,28+7279+29,28+8ca1+29,28+795d+29",
  "3238=28+52b4+29,28+4ee3+29,28+547c+29,28+5b66+29,28+76e3+29,28+4f01+29,28+8cc7+29,28+5354+29",
  "3240=28+796d+29,28+4f11+29,28+81ea+29,28+81f3+29,554f,5e7c,6587,7b8f",
  "3250=70+74+65,32+31,32+32,32+33,32+34,32+35,32+36,32+37,32+38,32+39,33+30,33+31,33+32,33+33",
  "325e=33+34,33+35,1100,1102,1103 3263*3=1105 3266=1109,110b,110c 3269*5=110e",
  "326e=ac00,b098,b2e4,b77c,b9c8,bc14,c0ac,c544,c790,cc28,ce74,d0c0,d30c,d558,cc38+ace0",
  "327d=c8fc+c758,c6b0",
  "3280=4e00,4e8c,4e09,56db,4e94,516d,4e03,516b,4e5d,5341,6708,706b,6c34,6728,91d1,571f,65e5",
  "3291=682a,6709,793e,540d,7279,8ca1,795d,52b4,79d8,7537,5973,9069,512a,5370,6ce8,9805,4f11",
  "32a2=5199,6b63,4e0a,4e2d,4e0b,5de6,53f3,533b,5b97,5b66,76e3,4f01,8cc7,5354,591c,33+36,33+37",
  "32b3=33+38,33+39,34+30,34+31,34+32,34+33,34+34,34+35,34+36,34+37,34+38,34+39,35+30,31+6708",
  "32c1=32+6708,33+6708,34+6708,35+6708,36+6708,37+6708,38+6708,39+6708,31+30+6708,31+31+6708",
  "32cb=31+32+6708,68+67,65+72+67,65+76,6c+74+64,30a2,30a4,30a6,30a8,30aa,30ab,30ad,30af,30b1",
  "32d9=30b3,30b5,30b7,30b9,30bb,30bd,30bf,30c1,30c4,30c6,30c8 32e4*6=30ca",
  "32ea=30d2,30d5,30d8,30db 32ee*5=30de 32f3=30e4,30e6 32f5*6=30e8 32fb*4=30ef",
  "32ff=4ee4+548c,30a2+30d1+30fc+30c8,30a2+30eb+30d5+30a1,30a2+30f3+30da+30a2,30a2+30fc+30eb",
  "3304=30a4+30cb+30f3+30b0,30a4+30f3+30c1,30a6+30a9+30f3,30a8+30b9+30af+30fc+30c9",
  "3308=30a8+30fc+30ab+30fc,30aa+30f3+30b9,30aa+30fc+30e0,30ab+30a4+30ea,30ab+30e9+30c3+30c8",
  "330d=30ab+30ed+30ea+30fc,30ac+30ed+30f3,30ac+30f3+30de,30ae+30ac,30ae+30cb+30fc",
  "3312=30ad+30e5+30ea+30fc,30ae+30eb+30c0+30fc,30ad+30ed,30ad+30ed+30b0+30e9+30e0",
  "3316=30ad+30ed+30e1+30fc+30c8+30eb,30ad+30ed+30ef+30c3+30c8,30b0+30e9+30e0",
  "3319=30b0+30e9+30e0+30c8+30f3,30af+30eb+30bc+30a4+30ed,30af+30ed+30fc+30cd,30b1+30fc+30b9",
  "331d=30b3+30eb+30ca,30b3+30fc+30dd,30b5+30a4+30af+30eb,30b5+30f3+30c1+30fc+30e0",
  "3321=30b7+30ea+30f3+30b0,30bb+30f3+30c1,30bb+30f3+30c8,30c0+30fc+30b9,30c7+30b7,30c9+30eb",
  "3327=30c8+30f3,30ca+30ce,30ce+30c3+30c8,30cf+30a4+30c4,30d1+30fc+30bb+30f3+30c8",
  "332c=30d1+30fc+30c4,30d0+30fc+30ec+30eb,30d4+30a2+30b9+30c8+30eb,30d4+30af+30eb,30d4+30b3",
  "3331=30d3+30eb,30d5+30a1+30e9+30c3+30c9,30d5+30a3+30fc+30c8,30d6+30c3+30b7+30a7+30eb",
  "3335=30d5+30e9+30f3,30d8+30af+30bf+30fc+30eb,30da+30bd,30da+30cb+30d2,30d8+30eb+30c4",
  "333a=30da+30f3+30b9,30da+30fc+30b8,30d9+30fc+30bf,30dd+30a4+30f3+30c8,30dc+30eb+30c8",
  "333f=30db+30f3,30dd+30f3+30c9,30db+30fc+30eb,30db+30fc+30f3,30de+30a4+30af+30ed",
  "3344=30de+30a4+30eb,30de+30c3+30cf,30de+30eb+30af,30de+30f3+30b7+30e7+30f3",
  "3348=30df+30af+30ed+30f3,30df+30ea,30df+30ea+30d0+30fc+30eb,30e1+30ac,30e1+30ac+30c8+30f3",
  "334d=30e1+30fc+30c8+30eb,30e4+30fc+30c9,30e4+30fc+30eb,30e6+30a2+30f3,30ea+30c3+30c8+30eb",
  "3352=30ea+30e9,30eb+30d4+30fc,30eb+30fc+30d6+30eb,30ec+30e0,30ec+30f3+30c8+30b2+30f3",
  "3357=30ef+30c3+30c8,30+70b9,31+70b9,32+70b9,33+70b9,34+70b9,35+70b9,36+70b9,37+70b9,38+70b9",
  "3361=39+70b9,31+30+70b9,31+31+70b9,31+32+70b9,31+33+70b9,31+34+70b9,31+35+70b9,31+36+70b9",
  "3369=31+37+70b9,31+38+70b9,31+39+70b9,32+30+70b9,32+31+70b9,32+32+70b9,32+33+70b9,32+34+70b9",
  "3371=68+70+61,64+61,61+75,62+61+72,6f+76,70+63,64+6d,64+6d+32,64+6d+33,69+75,5e73+6210",
  "337c=662d+548c,5927+6b63,660e+6cbb,682a+5f0f+4f1a+793e,70+61,6e+61,3bc+61,6d+61,6b+61,6b+62",
  "3386=6d+62,67+62,63+61+6c,6b+63+61+6c,70+66,6e+66,3bc+66,3bc+67,6d+67,6b+67,68+7a,6b+68+7a",
  "3392=6d+68+7a,67+68+7a,74+68+7a,3bc+6c,6d+6c,64+6c,6b+6c,66+6d,6e+6d,3bc+6d,6d+6d,63+6d",
  "339e=6b+6d,6d+6d+32,63+6d+32,6d+32,6b+6d+32,6d+6d+33,63+6d+33,6d+33,6b+6d+33,6d+2215+73",
  "33a8=6d+2215+73+32,70+61,6b+70+61,6d+70+61,67+70+61,72+61+64,72+61+64+2215+73",
  "33af=72+61+64+2215+73+32,70+73,6e+73,3bc+73,6d+73,70+76,6e+76,3bc+76,6d+76,6b+76,6d+76,70+77",
  "33bb=6e+77,3bc+77,6d+77,6b+77,6d+77,6b+3c9,6d+3c9 33c3=62+71,63+63,63+64,63+2215+6b+67",
  "33c8=64+62,67+79,68+61,68+70,69+6e,6b+6b,6b+6d,6b+74,6c+6d,6c+6e,6c+6f+67,6c+78,6d+62",
  "33d5=6d+69+6c,6d+6f+6c,70+68",
  "33d9=70+70+6d,70+72,73+72,73+76,77+62,76+2215+6d,61+2215+6d,31+65e5,32+65e5,33+65e5,34+65e5",
  "33e4=35+65e5,36+65e5,37+65e5,38+65e5,39+65e5,31+30+65e5,31+31+65e5,31+32+65e5,31+33+65e5",
  "33ed=31+34+65e5,31+35+65e5,31+36+65e5,31+37+65e5,31+38+65e5,31+39+65e5,32+30+65e5,32+31+65e5",
  "33f5=32+32+65e5,32+33+65e5,32+34+65e5,32+35+65e5,32+36+65e5,32+37+65e5,32+38+65e5,32+39+65e5",
  "33fd=33+30+65e5,33+31+65e5,67+61+6c a640*17/2=a641 a680*e/2=a681 a69c=44a,44c a722*7/2=a723",
  "a732*1f/2=a733 a770=a76f a779=a77a a77b=a77c a77d=1d79 a77e*5/2=a77f a78b=a78c a78d=265",
  "a790=a791 a792=a793 a796*a/2=a797 a7aa=266,25c,261,26c,26a a7b0=29e,287,29d,ab53",
  "a7b4*8/2=a7b5 a7c4=a794,282,1d8e,a7c8 a7c9=a7ca a7cb=264,a7cd a7d0=a7d1 a7d6*3/2=a7d7",
  "a7dc=19b a7f2=63,66,71,a7f6 a7f8=127,153 ab5c=a727,ab37,26b,ab52 ab69=28d ab70*50=13a0",
  "f900=8c48,66f4,8eca,8cc8,6ed1,4e32,53e5,9f9c,9f9c,5951,91d1,5587,5948,61f6,7669,7f85,863f",
  "f911=87ba,88f8,908f,6a02,6d1b,70d9,73de,843d,916a,99f1,4e82,5375,6b04,721b,862d,9e1e,5d50",
  "f922=6feb,85cd,8964,62c9,81d8,881f,5eca,6717,6d6a,72fc,90ce,4f86,51b7,52de,64c4,6ad3,7210",
  "f933=76e7,8001,8606,865c,8def,9732,9b6f,9dfa,788c,797f,7da0,83c9,9304,9e7f,8ad6,58df,5f04",
  "f944=7c60,807e,7262,78ca,8cc2,96f7,58d8,5c62,6a13,6dda,6f0f,7d2f,7e37,964b,52d2,808b,51dc",
  "f955=51cc,7a1c,7dbe,83f1,9675,8b80,62cf,6a02,8afe,4e39,5be7,6012,7387,7570,5317,78fb,4fbf",
  "f966=5fa9,4e0d,6ccc,6578,7d22,53c3,585e,7701,8449,8aaa,6bba,8fb0,6c88,62fe,82e5,63a0,7565",
  "f977=4eae,5169,51c9,6881,7ce7,826f,8ad2,91cf,52f5,5442,5973,5eec,65c5,6ffe,792a,95ad,9a6a",
  "f988=9e97,9ece,529b,66c6,6b77,8f62,5e74,6190,6200,649a,6f23,7149,7489,79ca,7df4,806f,8f26",
  "f999=84ee,9023,934a,5217,52a3,54bd,70c8,88c2,8aaa,5ec9,5ff5,637b,6bae,7c3e,7375,4ee4,56f9",
  "f9aa=5be7,5dba,601c,73b2,7469,7f9a,8046,9234,96f6,9748,9818,4f8b,79ae,91b4,96b8,60e1,4e86",
  "f9bb=50da,5bee,5c3f,6599,6a02,71ce,7642,84fc,907c,9f8d,6688,962e,5289,677b,67f3,6d41,6e9c",
  "f9cc=7409,7559,786b,7d10,985e,516d,622e,9678,502b,5d19,6dea,8f2a,5f8b,6144,6817,7387,9686",
  "f9dd=5229,540f,5c65,6613,674e,68a8,6ce5,7406,75e2,7f79,88cf,88e1,91cc,96e2,533f,6eba,541d",
  "f9ee=71d0,7498,85fa,96a3,9c57,9e9f,6797,6dcb,81e8,7acb,7b20,7c92,72c0,7099,8b58,4ec0,8336",
  "f9ff=523a,5207,5ea6,62d3,7cd6,5b85,6d1e,66b4,8f3b,884c,964d,898b,5ed3,5140,55c0 fa10=585a",
  "fa12=6674 fa15=51de,732a,76ca,793c,795e,7965,798f,9756,7cbe,7fbd fa20=8612 fa22=8af8",
  "fa25=9038,90fd",
  "fa2a=98ef,98fc,9928,9db4,90de,96b7,4fae,50e7,514d,52c9,52e4,5351,559d,5606,5668,5840,58a8",
  "fa3b=5c64,5c6e,6094,6168,618e,61f2,654f,65e2,6691,6885,6d77,6e1a,6f22,716e,722b,7422,7891",
  "fa4c=793e,7949,7948,7950,7956,795d,798d,798e,7a40,7a81,7bc0,7df4,7e09,7e41,7f72,8005,81ed",
  "fa5d=8279,8279,8457,8910,8996,8b01,8b39,8cd3,8d08,8fb6,9038,96e3,97ff,983b,6075,242ee,8218",
  "fa70=4e26,51b5,5168,4f80,5145,5180,52c7,52fa,559d,5555,5599,55e2,585a,58b3,5944,5954,5a62",
  "fa81=5b28,5ed2,5ed9,5f69,5fad,60d8,614e,6108,618e,6160,61f2,6234,63c4,641c,6452,6556,6674",
  "fa92=6717,671b,6756,6b79,6bba,6d41,6edb,6ecb,6f22,701e,716e,77a7,7235,72af,732a,7471,7506",
  "faa3=753b,761d,761f,76ca,76db,76f4,774a,7740,78cc,7ab1,7bc0,7c7b,7d5b,7df4,7f3e,8005,8352",
  "fab4=83ef,8779,8941,8986,8996,8abf,8af8,8acb,8b01,8afe,8aed,8b39,8b8a,8d08,8f38,9072,9199",
  "fac5=9276,967c,96e3,9756,97db,97ff,980b,983b,9b12,9f9c,2284a,22844,233d5,3b9d,4018,4039",
  "fad5=25249,25cd0,27ed3,9f43,9f8e fb00=66+66,66+69,66+6c,66+66+69,66+66+6c,73+74,73+74",
  "fb13=574+576,574+565,574+56b,57e+576,574+56d fb1d=5d9+5b4 fb1f=5f2+5b7,5e2,5d0,5d3,5d4",
  "fb24*3=5db",
  "fb27=5e8,5ea,2b,5e9+5c1,5e9+5c2,5e9+5bc+5c1,5e9+5bc+5c2,5d0+5b7,5d0+5b8,5d0+5bc,5d1+5bc",
  "fb32=5d2+5bc,5d3+5bc,5d4+5bc,5d5+5bc,5d6+5bc fb38=5d8+5bc,5d9+5bc,5da+5bc,5db+5bc,5dc+5bc",
  "fb3e=5de+5bc fb40=5e0+5bc,5e1+5bc fb43=5e3+5bc,5e4+5bc",
  "fb46=5e6+5bc,5e7+5bc,5e8+5bc,5e9+5bc,5ea+5bc,5d5+5b9,5d1+5bf,5db+5bf,5e4+5bf,5d0+5dc,671,671",
  "fb52=67b,67b,67b,67b,67e,67e,67e,67e,680,680,680,680,67a,67a,67a,67a,67f,67f,67f,67f,679,679",
  "fb68=679,679,6a4,6a4,6a4,6a4,6a6,6a6,6a6,6a6,684,684,684,684,683,683,683,683,686,686,686,686",
  "fb7e=687,687,687,687,68d,68d,68c,68c,68e,68e,688,688,698,698,691,691,6a9,6a9,6a9,6a9,6af,6af",
  "fb94=6af,6af,6b3,6b3,6b3,6b3,6b1,6b1,6b1,6b1,6ba,6ba,6bb,6bb,6bb,6bb,6c0,6c0,6c1,6c1,6c1,6c1",
  "fbaa=6be,6be,6be,6be,6d2,6d2,6d3,6d3",
  "fbd3=6ad,6ad,6ad,6ad,6c7,6c7,6c6,6c6,6c8,6c8,6c7+674,6cb,6cb,6c5,6c5,6c9,6c9,6d0,6d0,6d0,6d0",
  "fbe8=649,649,626+627,626+627,626+6d5,626+6d5,626+648,626+648,626+6c7,626+6c7,626+6c6,626+6c6",
  "fbf4=626+6c8,626+6c8,626+6d0,626+6d0,626+6d0,626+649,626+649,626+649,6cc,6cc,6cc,6cc,626+62c",
  "fc01=626+62d,626+645,626+649,626+64a,628+62c,628+62d,628+62e,628+645,628+649,628+64a,62a+62c",
  "fc0c=62a+62d,62a+62e,62a+645,62a+649,62a+64a,62b+62c,62b+645,62b+649,62b+64a,62c+62d,62c+645",
  "fc17=62d+62c,62d+645,62e+62c,62e+62d,62e+645,633+62c,633+62d,633+62e,633+645,635+62d,635+645",
  "fc22=636+62c,636+62d,636+62e,636+645,637+62d,637+645,638+645,639+62c,639+645,63a+62c,63a+645",
  "fc2d=641+62c,641+62d,641+62e,641+645,641+649,641+64a,642+62d,642+645,642+649,642+64a,643+627",
  "fc38=643+62c,643+62d,643+62e,643+644,643+645,643+649,643+64a,644+62c,644+62d,644+62e,644+645",
  "fc43=644+649,644+64a,645+62c,645+62d,645+62e,645+645,645+649,645+64a,646+62c,646+62d,646+62e",
  "fc4e=646+645,646+649,646+64a,647+62c,647+645,647+649,647+64a,64a+62c,64a+62d,64a+62e,64a+645",
  "fc59=64a+649,64a+64a,630+670,631+670,649+670,20+64c+651,20+64d+651,20+64e+651,20+64f+651",
  "fc62=20+650+651,20+651+670,626+631,626+632,626+645,626+646,626+649,626+64a,628+631,628+632",
  "fc6c=628+645,628+646,628+649,628+64a,62a+631,62a+632,62a+645,62a+646,62a+649,62a+64a,62b+631",
  "fc77=62b+632,62b+645,62b+646,62b+649,62b+64a,641+649,641+64a,642+649,642+64a,643+627,643+644",
  "fc82=643+645,643+649,643+64a,644+645,644+649,644+64a,645+627,645+645,646+631,646+632,646+645",
  "fc8d=646+646,646+649,646+64a,649+670,64a+631,64a+632,64a+645,64a+646,64a+649,64a+64a,626+62c",
  "fc98=626+62d,626+62e,626+645,626+647,628+62c,628+62d,628+62e,628+645,628+647,62a+62c,62a+62d",
  "fca3=62a+62e,62a+645,62a+647,62b+645,62c+62d,62c+645,62d+62c,62d+645,62e+62c,62e+645,633+62c",
  "fcae=633+62d,633+62e,633+645,635+62d,635+62e,635+645,636+62c,636+62d,636+62e,636+645,637+62d",
  "fcb9=638+645,639+62c,639+645,63a+62c,63a+645,641+62c,641+62d,641+62e,641+645,642+62d,642+645",
  "fcc4=643+62c,643+62d,643+62e,643+644,643+645,644+62c,644+62d,644+62e,644+645,644+647,645+62c",
  "fccf=645+62d,645+62e,645+645,646+62c,646+62d,646+62e,646+645,646+647,647+62c,647+645,647+670",
  "fcda=64a+62c,64a+62d,64a+62e,64a+645,64a+647,626+645,626+647,628+645,628+647,62a+645,62a+647",
  "fce5=62b+645,62b+647,633+645,633+647,634+645,634+647,643+644,643+645,644+645,646+645,646+647",
  "fcf0=64a+645,64a+647,640+64e+651,640+64f+651,640+650+651,637+649,637+64a,639+649,639+64a",
  "fcf9=63a+649,63a+64a,633+649,633+64a,634+649,634+64a,62d+649,62d+64a,62c+649,62c+64a,62e+649",
  "fd04=62e+64a,635+649,635+64a,636+649,636+64a,634+62c,634+62d,634+62e,634+645,634+631,633+631",
  "fd0f=635+631,636+631,637+649,637+64a,639+649,639+64a,63a+649,63a+64a,633+649,633+64a,634+649",
  "fd1a=634+64a,62d+649,62d+64a,62c+649,62c+64a,62e+649,62e+64a,635+649,635+64a,636+649,636+64a",
  "fd25=634+62c,634+62d,634+62e,634+645,634+631,633+631,635+631,636+631,634+62c,634+62d,634+62e",
  "fd30=634+645,633+647,634+647,637+645,633+62c,633+62d,633+62e,634+62c,634+62d,634+62e,637+645",
  "fd3b=638+645,627+64b,627+64b",
  "fd50=62a+62c+645,62a+62d+62c,62a+62d+62c,62a+62d+645,62a+62e+645,62a+645+62c,62a+645+62d",
  "fd57=62a+645+62e,62c+645+62d,62c+645+62d,62d+645+64a,62d+645+649,633+62d+62c,633+62c+62d",
  "fd5e=633+62c+649,633+645+62d,633+645+62d,633+645+62c,633+645+645,633+645+645,635+62d+62d",
  "fd65=635+62d+62d,635+645+645,634+62d+645,634+62d+645,634+62c+64a,634+645+62e,634+645+62e",
  "fd6c=634+645+645,634+645+645,636+62d+649,636+62e+645,636+62e+645,637+645+62d,637+645+62d",
  "fd73=637+645+645,637+645+64a,639+62c+645,639+645+645,639+645+645,639+645+649,63a+645+645",
  "fd7a=63a+645+64a,63a+645+649,641+62e+645,641+62e+645,642+645+62d,642+645+645,644+62d+645",
  "fd81=644+62d+64a,644+62d+649,644+62c+62c,644+62c+62c,644+62e+645,644+62e+645,644+645+62d",
  "fd88=644+645+62d,645+62d+62c,645+62d+645,645+62d+64a,645+62c+62d,645+62c+645,645+62e+62c",
  "fd8f=645+62e+645",
  "fd92=645+62c+62e,647+645+62c,647+645+645,646+62d+645,646+62d+649,646+62c+645,646+62c+645",
  "fd99=646+62c+649,646+645+64a,646+645+649,64a+645+645,64a+645+645,628+62e+64a,62a+62c+64a",
  "fda0=62a+62c+649,62a+62e+64a,62a+62e+649,62a+645+64a,62a+645+649,62c+645+64a,62c+62d+649",
  "fda7=62c+645+649,633+62e+649,635+62d+64a,634+62d+64a,636+62d+64a,644+62c+64a,644+645+64a",
  "fdae=64a+62d+64a,64a+62c+64a,64a+645+64a,645+645+64a,642+645+64a,646+62d+64a,642+645+62d",
  "fdb5=644+62d+645,639+645+64a,643+645+64a,646+62c+62d,645+62e+64a,644+62c+645,643+645+645",
  "fdbc=644+62c+645,646+62c+62d,62c+62d+64a,62d+62c+64a,645+62c+64a,641+645+64a,628+62d+64a",
  "fdc3=643+645+645,639+62c+645,635+645+645,633+62e+64a,646+62c+64a",
  "fdf0=635+644+6d2,642+644+6d2,627+644+644+647,627+643+628+631,645+62d+645+62f,635+644+639+645",
  "fdf6=631+633+648+644,639+644+64a+647,648+633+644+645,635+644+649",
  "fdfa=635+644+649+20+627+644+644+647+20+639+644+64a+647+20+648+633+644+645",
  "fdfb=62c+644+20+62c+644+627+644+647,631+6cc+627+644 fe10=2c,3001 fe13=3a,3b,21,3f,3016,3017",
  "fe31=2014,2013,5f,5f,28,29,7b,7d,3014,3015,3010,3011,300a,300b,3008,3009 fe41*4=300c",
  "fe47=5b,5d,20+305,20+305,20+305,20+305,5f,5f,5f,2c,3001",
  "fe54=3b,3a,3f,21,2014,28,29,7b,7d,3014,3015,23,26,2a,2b,2d,3c,3e,3d fe68=5c,24,25,40",
  "fe70=20+64b,640+64b,20+64c fe74=20+64d",
  "fe76=20+64e,640+64e,20+64f,640+64f,20+650,640+650,20+651,640+651,20+652,640+652,621,622,622",
  "fe83=623,623,624,624,625,625,626,626,626,626,627,627,628,628,628,628,629,629,62a,62a,62a,62a",
  "fe99=62b,62b,62b,62b,62c,62c,62c,62c,62d,62d,62d,62d,62e,62e,62e,62e,62f,62f,630,630,631,631",
  "feaf=632,632,633,633,633,633,634,634,634,634,635,635,635,635,636,636,636,636,637,637,637,637",
  "fec5=638,638,638,638,639,639,639,639,63a,63a,63a,63a,641,641,641,641,642,642,642,642,643,643",
  "fedb=643,643,644,644,644,644,645,645,645,645,646,646,646,646,647,647,647,647,648,648,649,649",
  "fef1=64a,64a,64a,64a,644+622,644+622,644+623,644+623,644+625,644+625,644+627,644+627",
  "ff01*20=21 ff21*1a=61 ff3b*24=5b",
  "ff5f=2985,2986,2e,300c,300d,3001,30fb,30f2,30a1,30a3,30a5,30a7,30a9,30e3,30e5,30e7,30c3,30fc",
  "ff71=30a2,30a4,30a6,30a8,30aa,30ab,30ad,30af,30b1,30b3,30b5,30b7,30b9,30bb,30bd,30bf,30c1",
  "ff82=30c4,30c6,30c8 ff85*6=30ca ff8b=30d2,30d5,30d8,30db ff8f*5=30de ff94=30e4,30e6",
  "ff96*6=30e8 ff9c=30ef,30f3,3099,309a ffa1=1100,1101,11aa,1102,11ac,11ad ffa7*3=1103",
  "ffaa*6=11b0 ffb0=111a ffb1*3=1106 ffb4=1121 ffb5*a=1109 ffc2*6=1161 ffca*6=1167 ffd2*6=116d",
  "ffda*3=1173 ffe0=a2,a3,ac,20+304,a6,a5,20a9 ffe8=2502 ffe9*4=2190 ffed=25a0,25cb",
  "10400*28=10428 104b0*24=104d8 10570*b=10597 1057c*f=105a3 1058c*7=105b3 10594=105bb,105bc",
  "10781=2d0,2d1,e6,299,253",
  "10787=2a3,ab66,2a5,2a4,256,257,1d91,258,25e,2a9,264,262,260,29b,127,29c,267,284,2aa,2ab,26c",
  "1079c=1df04,a78e,26e,1df05,28e,1df06,f8,276,277,71,27a,1df08,27d,27e,280,2a8,2a6,ab67,2a7",
  "107af=288,2c71 107b2=28f,2a1,2a2,298 107b6*3=1c0 107b9=1df0a,1df1e 10c80*33=10cc0",
  "10d50*16=10d70 118a0*20=118c0 16e40*20=16e60 1ccd6*1a=61 1ccf0*a=30",
  "1d15e=1d157+1d165,1d158+1d165,1d158+1d165+1d16e,1d158+1d165+1d16f,1d158+1d165+1d170",
  "1d163=1d158+1d165+1d171,1d158+1d165+1d172",
  "1d1bb=1d1b9+1d165,1d1ba+1d165,1d1b9+1d165+1d16e,1d1ba+1d165+1d16e,1d1b9+1d165+1d16f",
  "1d1c0=1d1ba+1d165+1d16f 1d400*1a=61 1d41a*1a=61 1d434*1a=61 1d44e*7=61 1d456*12=69",
  "1d468*1a=61 1d482*1a=61 1d49c=61 1d49e=63,64 1d4a2=67 1d4a5=6a,6b 1d4a9*4=6e 1d4ae*8=73",
  "1d4b6*4=61 1d4bb=66 1d4bd*7=68 1d4c5*b=70 1d4d0*1a=61 1d4ea*1a=61 1d504=61,62 1d507*4=64",
  "1d50d*8=6a 1d516*7=73 1d51e*1a=61 1d538=61,62 1d53b*4=64 1d540*5=69 1d546=6f 1d54a*7=73",
  "1d552*1a=61 1d56c*1a=61 1d586*1a=61 1d5a0*1a=61 1d5ba*1a=61 1d5d4*1a=61 1d5ee*1a=61",
  "1d608*1a=61 1d622*1a=61 1d63c*1a=61 1d656*1a=61 1d670*1a=61 1d68a*1a=61 1d6a4=131,237",
  "1d6a8*11=3b1 1d6b9=3b8 1d6ba*7=3c3 1d6c1=2207 1d6c2*11=3b1 1d6d3=3c3 1d6d4*7=3c3",
  "1d6db=2202,3b5,3b8,3ba,3c6,3c1,3c0 1d6e2*11=3b1 1d6f3=3b8 1d6f4*7=3c3 1d6fb=2207",
  "1d6fc*11=3b1 1d70d=3c3 1d70e*7=3c3 1d715=2202,3b5,3b8,3ba,3c6,3c1,3c0 1d71c*11=3b1 1d72d=3b8",
  "1d72e*7=3c3 1d735=2207 1d736*11=3b1 1d747=3c3 1d748*7=3c3 1d74f=2202,3b5,3b8,3ba,3c6,3c1,3c0",
  "1d756*11=3b1 1d767=3b8 1d768*7=3c3 1d76f=2207 1d770*11=3b1 1d781=3c3 1d782*7=3c3",
  "1d789=2202,3b5,3b8,3ba,3c6,3c1,3c0 1d790*11=3b1 1d7a1=3b8 1d7a2*7=3c3 1d7a9=2207",
  "1d7aa*11=3b1 1d7bb=3c3 1d7bc*7=3c3 1d7c3=2202,3b5,3b8,3ba,3c6,3c1,3c0,3dd,3dd 1d7ce*a=30",
  "1d7d8*a=30 1d7e2*a=30 1d7ec*a=30 1d7f6*a=30 1e030*9=430 1e039*3=43a 1e03c*b=43e",
  "1e047=44b,44d,44e,a689,4d9,456,458,4e9,4af,4cf 1e051*9=430 1e05a=43a,43b,43e,43f,441",
  "1e05f*6=443 1e065=44a,44b,491,456,455,45f,4ab,a651,4b1 1e900*22=1e922 1ee00=627,628,62c,62f",
  "1ee05=648,632,62d,637,64a 1ee0a*4=643",
  "1ee0e=633,639,641,635,642,631,634,62a,62b,62e,630,636,638,63a,66e,6ba,6a1,66f 1ee21=628,62c",
  "1ee24=647 1ee27=62d 1ee29=64a 1ee2a*4=643 1ee2e=633,639,641,635,642 1ee34=634,62a,62b,62e",
  "1ee39=636 1ee3b=63a 1ee42=62c 1ee47=62d 1ee49=64a 1ee4b=644 1ee4d=646,633,639 1ee51=635,642",
  "1ee54=634 1ee57=62e 1ee59=636 1ee5b=63a 1ee5d=6ba 1ee5f=66f 1ee61=628,62c 1ee64=647",
  "1ee67=62d,637,64a,643 1ee6c=645,646,633,639,641,635,642 1ee74=634,62a,62b,62e",
  "1ee79=636,638,63a,66e 1ee7e=6a1 1ee80=627,628,62c,62f,647,648,632,62d,637,64a 1ee8b*3=644",
  "1ee8e=633,639,641,635,642,631,634,62a,62b,62e,630,636,638,63a 1eea1=628,62c,62f",
  "1eea5=648,632,62d,637,64a 1eeab*3=644",
  "1eeae=633,639,641,635,642,631,634,62a,62b,62e,630,636,638,63a",
  "1f101=30+2c,31+2c,32+2c,33+2c,34+2c,35+2c,36+2c,37+2c,38+2c,39+2c",
  "1f110=28+61+29,28+62+29,28+63+29,28+64+29,28+65+29,28+66+29,28+67+29,28+68+29,28+69+29",
  "1f119=28+6a+29,28+6b+29,28+6c+29,28+6d+29,28+6e+29,28+6f+29,28+70+29,28+71+29,28+72+29",
  "1f122=28+73+29,28+74+29,28+75+29,28+76+29,28+77+29,28+78+29,28+79+29,28+7a+29,3014+73+3015",
  "1f12b=63,72,63+64,77+7a 1f130*1a=61 1f14a=68+76,6d+76,73+64,73+73,70+70+76,77+63",
  "1f16a=6d+63,6d+64,6d+72 1f190=64+6a 1f200=307b+304b,30b3+30b3,30b5",
  "1f210=624b,5b57,53cc,30c7,4e8c,591a,89e3,5929,4ea4,6620,7121,6599,524d,5f8c,518d,65b0,521d",
  "1f221=7d42,751f,8ca9,58f0,5439,6f14,6295,6355,4e00,4e09,904a,5de6,4e2d,53f3,6307,8d70,6253",
  "1f232=7981,7a7a,5408,6e80,6709,6708,7533,5272,55b6,914d",
  "1f240=3014+672c+3015,3014+4e09+3015,3014+4e8c+3015,3014+5b89+3015,3014+70b9+3015",
  "1f245=3014+6253+3015,3014+76d7+3015,3014+52dd+3015,3014+6557+3015 1f250=5f97,53ef 1fbf0*a=30",
  "2f800=4e3d,4e38,4e41,20122,4f60,4fae,4fbb,5002,507a,5099,50e7,50cf,349e,2063a,514d,5154,5164",
  "2f811=5177,2051c,34b9,5167,518d,2054b,5197,51a4,4ecc,51ac,51b5,291df,51f5,5203,34df,523b",
  "2f821=5246,5272,5277,3515,52c7,52c9,52e4,52fa,5305,5306,5317,5349,5351,535a,5373,537d,537f",
  "2f832=537f,537f,20a2c,7070,53ca,53df,20b63,53eb,53f1,5406,549e,5438,5448,5468,54a2,54f6,5510",
  "2f843=5553,5563,5584,5584,5599,55ab,55b3,55c2,5716,5606,5717,5651,5674,5207,58ee,57ce,57f4",
  "2f854=580d,578b,5832,5831,58ac,214e4,58f2,58f7,5906,591a,5922,5962,216a8,216ea,59ec,5a1b",
  "2f864=5a27,59d8,5a66,36ee,36fc,5b08,5b3e,5b3e,219c8,5bc3,5bd8,5be7,5bf3,21b18,5bff,5c06,5f53",
  "2f875=5c22,3781,5c60,5c6e,5cc0,5c8d,21de4,5d43,21de6,5d6e,5d6b,5d7c,5de1,5de2,382f,5dfd,5e28",
  "2f886=5e3d,5e69,3862,22183,387c,5eb0,5eb3,5eb6,5eca,2a392,5efe,22331,22331,8201,5f22,5f22",
  "2f896=38c7,232b8,261da,5f62,5f6b,38e3,5f9a,5fcd,5fd7,5ff9,6081,393a,391c,6094,226d4,60c7",
  "2f8a6=6148,614c,614e,614c,617a,618e,61b2,61a4,61af,61de,61f2,61f6,6210,621b,625d,62b1,62d4",
  "2f8b7=6350,22b0c,633d,62fc,6368,6383,63e4,22bf1,6422,63c5,63a9,3a2e,6469,647e,649d,6477,3a6c",
  "2f8c8=654f,656c,2300a,65e3,66f8,6649,3b19,6691,3b08,3ae4,5192,5195,6700,669c,80ad,43d9,6717",
  "2f8d9=671b,6721,675e,6753,233c3,3b49,67fa,6785,6852,6885,2346d,688e,681f,6914,3b9d,6942,69a3",
  "2f8ea=69ea,6aa8,236a3,6adb,3c18,6b21,238a7,6b54,3c4e,6b72,6b9f,6bba,6bbb,23a8d,21d0b,23afa",
  "2f8fa=6c4e,23cbc,6cbf,6ccd,6c67,6d16,6d3e,6d77,6d41,6d69,6d78,6d85,23d1e,6d34,6e2f,6e6e,3d33",
  "2f90b=6ecb,6ec7,23ed1,6df9,6f6e,23f5e,23f8e,6fc6,7039,701e,701b,3d96,704a,707d,7077,70ad",
  "2f91b=20525,7145,24263,719c,243ab,7228,7235,7250,24608,7280,7295,24735,24814,737a,738b,3eac",
  "2f92b=73a5,3eb8,3eb8,7447,745c,7471,7485,74ca,3f1b,7524,24c36,753e,24c92,7570,2219f,7610",
  "2f93b=24fa1,24fb8,25044,3ffc,4008,76f4,250f3,250f2,25119,25133,771e,771f,771f,774a,4039,778b",
  "2f94b=4046,4096,2541d,784e,788c,78cc,40e3,25626,7956,2569a,256c5,798f,79eb,412f,7a40,7a4a",
  "2f95b=7a4f,2597c,25aa7,25aa7,7aee,4202,25bab,7bc6,7bc9,4227,25c80,7cd2,42a0,7ce8,7ce3,7d00",
  "2f96b=25f86,7d63,4301,7dc7,7e02,7e45,4334,26228,26247,4359,262d9,7f7a,2633e,7f95,7ffa,8005",
  "2f97b=264da,26523,8060,265a8,8070,2335f,43d5,80b2,8103,440b,813e,5ab5,267a7,267b5,23393",
  "2f98a=2339c,8201,8204,8f9e,446b,8291,828b,829d,52b3,82b1,82b3,82bd,82e6,26b3c,82e5,831d,8363",
  "2f99b=83ad,8323,83bd,83e7,8457,8353,83ca,83cc,83dc,26c36,26d6b,26cd5,452b,84f1,84f3,8516",
  "2f9ab=273ca,8564,26f2c,455d,4561,26fb1,270d2,456b,8650,865c,8667,8669,86a9,8688,870e,86e2",
  "2f9bb=8779,8728,876b,8786,45d7,87e1,8801,45f9,8860,8863,27667,88d7,88de,4635,88fa,34bb,278ae",
  "2f9cc=27966,46be,46c7,8aa0,8aed,8b8a,8c55,27ca8,8cab,8cc1,8d1b,8d77,27f2f,20804,8dcb,8dbc",
  "2f9dc=8df0,208de,8ed4,8f38,285d2,285ed,9094,90f1,9111,2872e,911b,9238,92d7,92d8,927c,93f9",
  "2f9ec=9415,28bfa,958b,4995,95b7,28d77,49e6,96c3,5db2,9723,29145,2921a,4a6e,4a76,97e0,2940a",
  "2f9fc=4ab2,29496,980b,980b,9829,295b6,98e2,4b33,9929,99a7,99c2,99fe,4bce,29b30,9b12,9c40",
  "2fa0c=9cfd,4cce,4ced,9d67,2a0ce,4cf8,2a105,2a20e,2a291,9ebb,4d56,9ef9,9efe,9f05,9f0f,9f16",
  "2fa1c=9f3b,2a600"]

/-- The characters that are left out. -/
def ignored : CharSet := ⟨#[
  0xad, 0xae, 0x34f, 0x350, 0x115f, 0x1161, 0x17b4, 0x17b6, 0x180b, 0x1810, 0x200b, 0x200c,
  0x2060, 0x2065, 0x206a, 0x2070, 0x3164, 0x3165, 0xfe00, 0xfe10, 0xfeff, 0xff00, 0xffa0,
  0xffa1, 0x1bca0, 0x1bca4, 0x1d173, 0x1d17b, 0xe0100, 0xe01f0]⟩

/-- The characters that must not occur. -/
def disallowed : CharSet := ⟨#[
  0x80, 0xa0, 0x378, 0x37a, 0x380, 0x384, 0x38b, 0x38c, 0x38d, 0x38e, 0x3a2, 0x3a3, 0x530,
  0x531, 0x557, 0x559, 0x58b, 0x58d, 0x590, 0x591, 0x5c8, 0x5d0, 0x5eb, 0x5ef, 0x5f5, 0x606,
  0x61c, 0x61d, 0x6dd, 0x6de, 0x70e, 0x710, 0x74b, 0x74d, 0x7b2, 0x7c0, 0x7fb, 0x7fd, 0x82e,
  0x830, 0x83f, 0x840, 0x85c, 0x85e, 0x85f, 0x860, 0x86b, 0x870, 0x88f, 0x897, 0x8e2, 0x8e3,
  0x984, 0x985, 0x98d, 0x98f, 0x991, 0x993, 0x9a9, 0x9aa, 0x9b1, 0x9b2, 0x9b3, 0x9b6, 0x9ba,
  0x9bc, 0x9c5, 0x9c7, 0x9c9, 0x9cb, 0x9cf, 0x9d7, 0x9d8, 0x9dc, 0x9de, 0x9df, 0x9e4, 0x9e6,
  0x9ff, 0xa01, 0xa04, 0xa05, 0xa0b, 0xa0f, 0xa11, 0xa13, 0xa29, 0xa2a, 0xa31, 0xa32, 0xa34,
  0xa35, 0xa37, 0xa38, 0xa3a, 0xa3c, 0xa3d, 0xa3e, 0xa43, 0xa47, 0xa49, 0xa4b, 0xa4e, 0xa51,
  0xa52, 0xa59, 0xa5d, 0xa5e, 0xa5f, 0xa66, 0xa77, 0xa81, 0xa84, 0xa85, 0xa8e, 0xa8f, 0xa92,
  0xa93, 0xaa9, 0xaaa, 0xab1, 0xab2, 0xab4, 0xab5, 0xaba, 0xabc, 0xac6, 0xac7, 0xaca, 0xacb,
  0xace, 0xad0, 0xad1, 0xae0, 0xae4, 0xae6, 0xaf2, 0xaf9, 0xb00, 0xb01, 0xb04, 0xb05, 0xb0d,
  0xb0f, 0xb11, 0xb13, 0xb29, 0xb2a, 0xb31, 0xb32, 0xb34, 0xb35, 0xb3a, 0xb3c, 0xb45, 0xb47,
  0xb49, 0xb4b, 0xb4e, 0xb55, 0xb58, 0xb5c, 0xb5e, 0xb5f, 0xb64, 0xb66, 0xb78, 0xb82, 0xb84,
  0xb85, 0xb8b, 0xb8e, 0xb91, 0xb92, 0xb96, 0xb99, 0xb9b, 0xb9c, 0xb9d, 0xb9e, 0xba0, 0xba3,
  0xba5, 0xba8, 0xbab, 0xbae, 0xbba, 0xbbe, 0xbc3, 0xbc6, 0xbc9, 0xbca, 0xbce, 0xbd0, 0xbd1,
  0xbd7, 0xbd8, 0xbe6, 0xbfb, 0xc00, 0xc0d, 0xc0e, 0xc11, 0xc12, 0xc29, 0xc2a, 0xc3a, 0xc3c,
  0xc45, 0xc46, 0xc49, 0xc4a, 0xc4e, 0xc55, 0xc57, 0xc58, 0xc5b, 0xc5d, 0xc5e, 0xc60, 0xc64,
  0xc66, 0xc70, 0xc77, 0xc8d, 0xc8e, 0xc91, 0xc92, 0xca9, 0xcaa, 0xcb4, 0xcb5, 0xcba, 0xcbc,
  0xcc5, 0xcc6, 0xcc9, 0xcca, 0xcce, 0xcd5, 0xcd7, 0xcdd, 0xcdf, 0xce0, 0xce4, 0xce6, 0xcf0,
  0xcf1, 0xcf4, 0xd00, 0xd0d, 0xd0e, 0xd11, 0xd12, 0xd45, 0xd46, 0xd49, 0xd4a, 0xd50, 0xd54,
  0xd64, 0xd66, 0xd80, 0xd81, 0xd84, 0xd85, 0xd97, 0xd9a, 0xdb2, 0xdb3, 0xdbc, 0xdbd, 0xdbe,
  0xdc0, 0xdc7, 0xdca, 0xdcb, 0xdcf, 0xdd5, 0xdd6, 0xdd7, 0xdd8, 0xde0, 0xde6, 0xdf0, 0xdf2,
  0xdf5, 0xe01, 0xe3b, 0xe3f, 0xe5c, 0xe81, 0xe83, 0xe84, 0xe85, 0xe86, 0xe8b, 0xe8c, 0xea4,
  0xea5, 0xea6, 0xea7, 0xebe, 0xec0, 0xec5, 0xec6, 0xec7, 0xec8, 0xecf, 0xed0, 0xeda, 0xedc,
  0xee0, 0xf00, 0xf48, 0xf49, 0xf6d, 0xf71, 0xf98, 0xf99, 0xfbd, 0xfbe, 0xfcd, 0xfce, 0xfdb,
  0x1000, 0x10c6, 0x10c7, 0x10c8, 0x10cd, 0x10ce, 0x10d0, 0x1249, 0x124a, 0x124e, 0x1250,
  0x1257, 0x1258, 0x1259, 0x125a, 0x125e, 0x1260, 0x1289, 0x128a, 0x128e, 0x1290, 0x12b1,
  0x12b2, 0x12b6, 0x12b8, 0x12bf, 0x12c0, 0x12c1, 0x12c2, 0x12c6, 0x12c8, 0x12d7, 0x12d8,
  0x1311, 0x1312, 0x1316, 0x1318, 0x135b, 0x135d, 0x137d, 0x1380, 0x139a, 0x13a0, 0x13f6,
  0x13f8, 0x13fe, 0x1400, 0x1680, 0x1681, 0x169d, 0x16a0, 0x16f9, 0x1700, 0x1716, 0x171f,
  0x1737, 0x1740, 0x1754, 0x1760, 0x176d, 0x176e, 0x1771, 0x1772, 0x1774, 0x1780, 0x17de,
  0x17e0, 0x17ea, 0x17f0, 0x17fa, 0x1800, 0x181a, 0x1820, 0x1879, 0x1880, 0x18ab, 0x18b0,
  0x18f6, 0x1900, 0x191f, 0x1920, 0x192c, 0x1930, 0x193c, 0x1940, 0x1941, 0x1944, 0x196e,
  0x1970, 0x1975, 0x1980, 0x19ac, 0x19b0, 0x19ca, 0x19d0, 0x19db, 0x19de, 0x1a1c, 0x1a1e,
  0x1a5f, 0x1a60, 0x1a7d, 0x1a7f, 0x1a8a, 0x1a90, 0x1a9a, 0x1aa0, 0x1aae, 0x1ab0, 0x1acf,
  0x1b00, 0x1b4d, 0x1b4e, 0x1bf4, 0x1bfc, 0x1c38, 0x1c3b, 0x1c4a, 0x1c4d, 0x1c8b, 0x1c90,
  0x1cbb, 0x1cbd, 0x1cc8, 0x1cd0, 0x1cfb, 0x1d00, 0x1f16, 0x1f18, 0x1f1e, 0x1f20, 0x1f46,
  0x1f48, 0x1f4e, 0x1f50, 0x1f58, 0x1f59, 0x1f5a, 0x1f5b, 0x1f5c, 0x1f5d, 0x1f5e, 0x1f5f,
  0x1f7e, 0x1f80, 0x1fb5, 0x1fb6, 0x1fc5, 0x1fc6, 0x1fd4, 0x1fd6, 0x1fdc, 0x1fdd, 0x1ff0,
  0x1ff2, 0x1ff5, 0x1ff6, 0x1fff, 0x2000, 0x200e, 0x2010, 0x2024, 0x2027, 0x2028, 0x202f,
  0x2065, 0x206a, 0x2072, 0x2074, 0x208f, 0x2090, 0x209d, 0x20a0, 0x20c1, 0x20d0, 0x20f1,
  0x2100, 0x218c, 0x2190, 0x242a, 0x2440, 0x244b, 0x2460, 0x2488, 0x249c, 0x2b74, 0x2b76,
  0x2b96, 0x2b97, 0x2cf4, 0x2cf9, 0x2d26, 0x2d27, 0x2d28, 0x2d2d, 0x2d2e, 0x2d30, 0x2d68,
  0x2d6f, 0x2d71, 0x2d7f, 0x2d97, 0x2da0, 0x2da7, 0x2da8, 0x2daf, 0x2db0, 0x2db7, 0x2db8,
  0x2dbf, 0x2dc0, 0x2dc7, 0x2dc8, 0x2dcf, 0x2dd0, 0x2dd7, 0x2dd8, 0x2ddf, 0x2de0, 0x2e5e,
  0x2e80, 0x2e9a, 0x2e9b, 0x2ef4, 0x2f00, 0x2fd6, 0x3000, 0x3040, 0x3041, 0x3097, 0x3099,
  0x3100, 0x3105, 0x3130, 0x3131, 0x318f, 0x3190, 0x31e6, 0x31f0, 0x321f, 0x3220, 0x33c2,
  0x33c3, 0x33c7, 0x33c8, 0x33d8, 0x33d9, 0xa48d, 0xa490, 0xa4c7, 0xa4d0, 0xa62c, 0xa640,
  0xa6f8, 0xa700, 0xa7ce, 0xa7d0, 0xa7d2, 0xa7d3, 0xa7d4, 0xa7d5, 0xa7dd, 0xa7f2, 0xa82d,
  0xa830, 0xa83a, 0xa840, 0xa878, 0xa880, 0xa8c6, 0xa8ce, 0xa8da, 0xa8e0, 0xa954, 0xa95f,
  0xa97d, 0xa980, 0xa9ce, 0xa9cf, 0xa9da, 0xa9de, 0xa9ff, 0xaa00, 0xaa37, 0xaa40, 0xaa4e,
  0xaa50, 0xaa5a, 0xaa5c, 0xaac3, 0xaadb, 0xaaf7, 0xab01, 0xab07, 0xab09, 0xab0f, 0xab11,
  0xab17, 0xab20, 0xab27, 0xab28, 0xab2f, 0xab30, 0xab6c, 0xab70, 0xabee, 0xabf0, 0xabfa,
  0xac00, 0xd7a4, 0xd7b0, 0xd7c7, 0xd7cb, 0xd7fc, 0xf900, 0xfa6e, 0xfa70, 0xfada, 0xfb00,
  0xfb07, 0xfb13, 0xfb18, 0xfb1d, 0xfb37, 0xfb38, 0xfb3d, 0xfb3e, 0xfb3f, 0xfb40, 0xfb42,
  0xfb43, 0xfb45, 0xfb46, 0xfbc3, 0xfbd3, 0xfd90, 0xfd92, 0xfdc8, 0xfdcf, 0xfdd0, 0xfdf0,
  0xfe12, 0xfe13, 0xfe19, 0xfe20, 0xfe30, 0xfe31, 0xfe52, 0xfe54, 0xfe67, 0xfe68, 0xfe6c,
  0xfe70, 0xfe75, 0xfe76, 0xfefd, 0xfeff, 0xff00, 0xff01, 0xffbf, 0xffc2, 0xffc8, 0xffca,
  0xffd0, 0xffd2, 0xffd8, 0xffda, 0xffdd, 0xffe0, 0xffe7, 0xffe8, 0xffef, 0x10000, 0x1000c,
  0x1000d, 0x10027, 0x10028, 0x1003b, 0x1003c, 0x1003e, 0x1003f, 0x1004e, 0x10050, 0x1005e,
  0x10080, 0x100fb, 0x10100, 0x10103, 0x10107, 0x10134, 0x10137, 0x1018f, 0x10190, 0x1019d,
  0x101a0, 0x101a1, 0x101d0, 0x101fe, 0x10280, 0x1029d, 0x102a0, 0x102d1, 0x102e0, 0x102fc,
  0x10300, 0x10324, 0x1032d, 0x1034b, 0x10350, 0x1037b, 0x10380, 0x1039e, 0x1039f, 0x103c4,
  0x103c8, 0x103d6, 0x10400, 0x1049e, 0x104a0, 0x104aa, 0x104b0, 0x104d4, 0x104d8, 0x104fc,
  0x10500, 0x10528, 0x10530, 0x10564, 0x1056f, 0x1057b, 0x1057c, 0x1058b, 0x1058c, 0x10593,
  0x10594, 0x10596, 0x10597, 0x105a2, 0x105a3, 0x105b2, 0x105b3, 0x105ba, 0x105bb, 0x105bd,
  0x105c0, 0x105f4, 0x10600, 0x10737, 0x10740, 0x10756, 0x10760, 0x10768, 0x10780, 0x10786,
  0x10787, 0x107b1, 0x107b2, 0x107bb, 0x10800, 0x10806, 0x10808, 0x10809, 0x1080a, 0x10836,
  0x10837, 0x10839, 0x1083c, 0x1083d, 0x1083f, 0x10856, 0x10857, 0x1089f, 0x108a7, 0x108b0,
  0x108e0, 0x108f3, 0x108f4, 0x108f6, 0x108fb, 0x1091c, 0x1091f, 0x1093a, 0x1093f, 0x10940,
  0x10980, 0x109b8, 0x109bc, 0x109d0, 0x109d2, 0x10a04, 0x10a05, 0x10a07, 0x10a0c, 0x10a14,
  0x10a15, 0x10a18, 0x10a19, 0x10a36, 0x10a38, 0x10a3b, 0x10a3f, 0x10a49, 0x10a50, 0x10a59,
  0x10a60, 0x10aa0, 0x10ac0, 0x10ae7, 0x10aeb, 0x10af7, 0x10b00, 0x10b36, 0x10b39, 0x10b56,
  0x10b58, 0x10b73, 0x10b78, 0x10b92, 0x10b99, 0x10b9d, 0x10ba9, 0x10bb0, 0x10c00, 0x10c49,
  0x10c80, 0x10cb3, 0x10cc0, 0x10cf3, 0x10cfa, 0x10d28, 0x10d30, 0x10d3a, 0x10d40, 0x10d66,
  0x10d69, 0x10d86, 0x10d8e, 0x10d90, 0x10e60, 0x10e7f, 0x10e80, 0x10eaa, 0x10eab, 0x10eae,
  0x10eb0, 0x10eb2, 0x10ec2, 0x10ec5, 0x10efc, 0x10f28, 0x10f30, 0x10f5a, 0x10f70, 0x10f8a,
  0x10fb0, 0x10fcc, 0x10fe0, 0x10ff7, 0x11000, 0x1104e, 0x11052, 0x11076, 0x1107f, 0x110bd,
  0x110be, 0x110c3, 0x110d0, 0x110e9, 0x110f0, 0x110fa, 0x11100, 0x11135, 0x11136, 0x11148,
  0x11150, 0x11177, 0x11180, 0x111e0, 0x111e1, 0x111f5, 0x11200, 0x11212, 0x11213, 0x11242,
  0x11280, 0x11287, 0x11288, 0x11289, 0x1128a, 0x1128e, 0x1128f, 0x1129e, 0x1129f, 0x112aa,
  0x112b0, 0x112eb, 0x112f0, 0x112fa, 0x11300, 0x11304, 0x11305, 0x1130d, 0x1130f, 0x11311,
  0x11313, 0x11329, 0x1132a, 0x11331, 0x11332, 0x11334, 0x11335, 0x1133a, 0x1133b, 0x11345,
  0x11347, 0x11349, 0x1134b, 0x1134e, 0x11350, 0x11351, 0x11357, 0x11358, 0x1135d, 0x11364,
  0x11366, 0x1136d, 0x11370, 0x11375, 0x11380, 0x1138a, 0x1138b, 0x1138c, 0x1138e, 0x1138f,
  0x11390, 0x113b6, 0x113b7, 0x113c1, 0x113c2, 0x113c3, 0x113c5, 0x113c6, 0x113c7, 0x113cb,
  0x113cc, 0x113d6, 0x113d7, 0x113d9, 0x113e1, 0x113e3, 0x11400, 0x1145c, 0x1145d, 0x11462,
  0x11480, 0x114c8, 0x114d0, 0x114da, 0x11580, 0x115b6, 0x115b8, 0x115de, 0x11600, 0x11645,
  0x11650, 0x1165a, 0x11660, 0x1166d, 0x11680, 0x116ba, 0x116c0, 0x116ca, 0x116d0, 0x116e4,
  0x11700, 0x1171b, 0x1171d, 0x1172c, 0x11730, 0x11747, 0x11800, 0x1183c, 0x118a0, 0x118f3,
  0x118ff, 0x11907, 0x11909, 0x1190a, 0x1190c, 0x11914, 0x11915, 0x11917, 0x11918, 0x11936,
  0x11937, 0x11939, 0x1193b, 0x11947, 0x11950, 0x1195a, 0x119a0, 0x119a8, 0x119aa, 0x119d8,
  0x119da, 0x119e5, 0x11a00, 0x11a48, 0x11a50, 0x11aa3, 0x11ab0, 0x11af9, 0x11b00, 0x11b0a,
  0x11bc0, 0x11be2, 0x11bf0, 0x11bfa, 0x11c00, 0x11c09, 0x11c0a, 0x11c37, 0x11c38, 0x11c46,
  0x11c50, 0x11c6d, 0x11c70, 0x11c90, 0x11c92, 0x11ca8, 0x11ca9, 0x11cb7, 0x11d00, 0x11d07,
  0x11d08, 0x11d0a, 0x11d0b, 0x11d37, 0x11d3a, 0x11d3b, 0x11d3c, 0x11d3e, 0x11d3f, 0x11d48,
  0x11d50, 0x11d5a, 0x11d60, 0x11d66, 0x11d67, 0x11d69, 0x11d6a, 0x11d8f, 0x11d90, 0x11d92,
  0x11d93, 0x11d99, 0x11da0, 0x11daa, 0x11ee0, 0x11ef9, 0x11f00, 0x11f11, 0x11f12, 0x11f3b,
  0x11f3e, 0x11f5b, 0x11fb0, 0x11fb1, 0x11fc0, 0x11ff2, 0x11fff, 0x1239a, 0x12400, 0x1246f,
  0x12470, 0x12475, 0x12480, 0x12544, 0x12f90, 0x12ff3, 0x13000, 0x13430, 0x13440, 0x13456,
  0x13460, 0x143fb, 0x14400, 0x14647, 0x16100, 0x1613a, 0x16800, 0x16a39, 0x16a40, 0x16a5f,
  0x16a60, 0x16a6a, 0x16a6e, 0x16abf, 0x16ac0, 0x16aca, 0x16ad0, 0x16aee, 0x16af0, 0x16af6,
  0x16b00, 0x16b46, 0x16b50, 0x16b5a, 0x16b5b, 0x16b62, 0x16b63, 0x16b78, 0x16b7d, 0x16b90,
  0x16d40, 0x16d7a, 0x16e40, 0x16e9b, 0x16f00, 0x16f4b, 0x16f4f, 0x16f88, 0x16f8f, 0x16fa0,
  0x16fe0, 0x16fe5, 0x16ff0, 0x16ff2, 0x17000, 0x187f8, 0x18800, 0x18cd6, 0x18cff, 0x18d09,
  0x1aff0, 0x1aff4, 0x1aff5, 0x1affc, 0x1affd, 0x1afff, 0x1b000, 0x1b123, 0x1b132, 0x1b133,
  0x1b150, 0x1b153, 0x1b155, 0x1b156, 0x1b164, 0x1b168, 0x1b170, 0x1b2fc, 0x1bc00, 0x1bc6b,
  0x1bc70, 0x1bc7d, 0x1bc80, 0x1bc89, 0x1bc90, 0x1bc9a, 0x1bc9c, 0x1bca4, 0x1cc00, 0x1ccfa,
  0x1cd00, 0x1ceb4, 0x1cf00, 0x1cf2e, 0x1cf30, 0x1cf47, 0x1cf50, 0x1cfc4, 0x1d000, 0x1d0f6,
  0x1d100, 0x1d127, 0x1d129, 0x1d1eb, 0x1d200, 0x1d246, 0x1d2c0, 0x1d2d4, 0x1d2e0, 0x1d2f4,
  0x1d300, 0x1d357, 0x1d360, 0x1d379, 0x1d400, 0x1d455, 0x1d456, 0x1d49d, 0x1d49e, 0x1d4a0,
  0x1d4a2, 0x1d4a3, 0x1d4a5, 0x1d4a7, 0x1d4a9, 0x1d4ad, 0x1d4ae, 0x1d4ba, 0x1d4bb, 0x1d4bc,
  0x1d4bd, 0x1d4c4, 0x1d4c5, 0x1d506, 0x1d507, 0x1d50b, 0x1d50d, 0x1d515, 0x1d516, 0x1d51d,
  0x1d51e, 0x1d53a, 0x1d53b, 0x1d53f, 0x1d540, 0x1d545, 0x1d546, 0x1d547, 0x1d54a, 0x1d551,
  0x1d552, 0x1d6a6, 0x1d6a8, 0x1d7cc, 0x1d7ce, 0x1da8c, 0x1da9b, 0x1daa0, 0x1daa1, 0x1dab0,
  0x1df00, 0x1df1f, 0x1df25, 0x1df2b, 0x1e000, 0x1e007, 0x1e008, 0x1e019, 0x1e01b, 0x1e022,
  0x1e023, 0x1e025, 0x1e026, 0x1e02b, 0x1e030, 0x1e06e, 0x1e08f, 0x1e090, 0x1e100, 0x1e12d,
  0x1e130, 0x1e13e, 0x1e140, 0x1e14a, 0x1e14e, 0x1e150, 0x1e290, 0x1e2af, 0x1e2c0, 0x1e2fa,
  0x1e2ff, 0x1e300, 0x1e4d0, 0x1e4fa, 0x1e5d0, 0x1e5fb, 0x1e5ff, 0x1e600, 0x1e7e0, 0x1e7e7,
  0x1e7e8, 0x1e7ec, 0x1e7ed, 0x1e7ef, 0x1e7f0, 0x1e7ff, 0x1e800, 0x1e8c5, 0x1e8c7, 0x1e8d7,
  0x1e900, 0x1e94c, 0x1e950, 0x1e95a, 0x1e95e, 0x1e960, 0x1ec71, 0x1ecb5, 0x1ed01, 0x1ed3e,
  0x1ee00, 0x1ee04, 0x1ee05, 0x1ee20, 0x1ee21, 0x1ee23, 0x1ee24, 0x1ee25, 0x1ee27, 0x1ee28,
  0x1ee29, 0x1ee33, 0x1ee34, 0x1ee38, 0x1ee39, 0x1ee3a, 0x1ee3b, 0x1ee3c, 0x1ee42, 0x1ee43,
  0x1ee47, 0x1ee48, 0x1ee49, 0x1ee4a, 0x1ee4b, 0x1ee4c, 0x1ee4d, 0x1ee50, 0x1ee51, 0x1ee53,
  0x1ee54, 0x1ee55, 0x1ee57, 0x1ee58, 0x1ee59, 0x1ee5a, 0x1ee5b, 0x1ee5c, 0x1ee5d, 0x1ee5e,
  0x1ee5f, 0x1ee60, 0x1ee61, 0x1ee63, 0x1ee64, 0x1ee65, 0x1ee67, 0x1ee6b, 0x1ee6c, 0x1ee73,
  0x1ee74, 0x1ee78, 0x1ee79, 0x1ee7d, 0x1ee7e, 0x1ee7f, 0x1ee80, 0x1ee8a, 0x1ee8b, 0x1ee9c,
  0x1eea1, 0x1eea4, 0x1eea5, 0x1eeaa, 0x1eeab, 0x1eebc, 0x1eef0, 0x1eef2, 0x1f000, 0x1f02c,
  0x1f030, 0x1f094, 0x1f0a0, 0x1f0af, 0x1f0b1, 0x1f0c0, 0x1f0c1, 0x1f0d0, 0x1f0d1, 0x1f0f6,
  0x1f101, 0x1f1ae, 0x1f1e6, 0x1f203, 0x1f210, 0x1f23c, 0x1f240, 0x1f249, 0x1f250, 0x1f252,
  0x1f260, 0x1f266, 0x1f300, 0x1f6d8, 0x1f6dc, 0x1f6ed, 0x1f6f0, 0x1f6fd, 0x1f700, 0x1f777,
  0x1f77b, 0x1f7da, 0x1f7e0, 0x1f7ec, 0x1f7f0, 0x1f7f1, 0x1f800, 0x1f80c, 0x1f810, 0x1f848,
  0x1f850, 0x1f85a, 0x1f860, 0x1f888, 0x1f890, 0x1f8ae, 0x1f8b0, 0x1f8bc, 0x1f8c0, 0x1f8c2,
  0x1f900, 0x1fa54, 0x1fa60, 0x1fa6e, 0x1fa70, 0x1fa7d, 0x1fa80, 0x1fa8a, 0x1fa8f, 0x1fac7,
  0x1face, 0x1fadd, 0x1fadf, 0x1faea, 0x1faf0, 0x1faf9, 0x1fb00, 0x1fb93, 0x1fb94, 0x1fbfa,
  0x20000, 0x2a6e0, 0x2a700, 0x2b73a, 0x2b740, 0x2b81e, 0x2b820, 0x2cea2, 0x2ceb0, 0x2ebe1,
  0x2ebf0, 0x2ee5e, 0x2f800, 0x2fa1e, 0x30000, 0x3134b, 0x31350, 0x323b0, 0xe0100, 0xe01f0,
  0x110000]⟩

end EventIntake.Url
