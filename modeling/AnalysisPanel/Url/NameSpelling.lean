import AnalysisPanel.Text.Ranges
import AnalysisPanel.Text.Respelling

/-! How the characters that are typed for the name of a host are spelled in it. Capitals are
lowered, forms that differ in looks alone are unified, and characters that do not show vanish. -/

namespace AnalysisPanel.Url

open Text

/-- The characters past ASCII that are spelled otherwise. -/
def nameSpellings : List Respelling := Respelling.read "
  A0=20 A8=20.308 AA=61 AD= AF=20.304 B2-B3=32 =20.301 =3BC B8=20.327 =31 =6F BC=31.2044.34
  =31.2044.32 =33.2044.34 C0-D6=E0 D8-DE=F8 100/12E=101 130=69.307 132=69.6A =69.6A 134/136=135
  139/13D=13A 13F=6C.B7 =6C.B7 141/147=142 149=2BC.6E 14A/176=14B 178=FF 179/17D=17A 17F=73
  181=253 182/184=183 186=254 =188 189-18A=256 =18C 18E=1DD =259 =25B =192 193=260 =263 196=269
  =268 =199 19C=26F =272 19F=275 1A0/1A4=1A1 1A6=280 =1A8 1A9=283 1AC=1AD 1AE=288 =1B0 1B1-1B2=28A
  1B3/1B5=1B4 1B7=292 =1B9 1BC=1BD 1C4=64.17E =64.17E =64.17E =6C.6A =6C.6A =6C.6A =6E.6A =6E.6A
  =6E.6A 1CD/1DB=1CE 1DE/1EE=1DF 1F1=64.7A =64.7A =64.7A =1F5 1F6=195 =1BF 1F8/21E=1F9 220=19E
  222/232=223 23A=2C65 =23C 23D=19A =2C66 241=242 243=180 =289 =28C 246/24E=247 2B0/2B2=68 2B1=266
  2B3=72 =279 =27B =281 =77 =79 2D8=20.306 =20.307 =20.30A =20.328 =20.303 =20.30B 2E0=263 =6C =73
  =78 =295 340-341=300 343=313 =308.301 =3B9 34F= 370/372=371 374=2B9 376=377 37A=20.3B9 37E=3B
  =3F3 384=20.301 =20.308.301 =3AC =B7 388-38A=3AD 38C=3CC 38E-38F=3CD 391-3A1=3B1 3A3-3AB=3C3
  3CF=3D7 =3B2 =3B8 =3C5 =3CD =3CB =3C6 =3C0 3D8/3EE=3D9 3F0=3BA =3C1 =3C3 3F4=3B8 =3B5 3F7=3F8
  3F9=3C3 =3FB 3FD-3FF=37B 400-40F=450 410-42F=430 460/480=461 48A/4BE=48B 4C0=4CF 4C1/4CD=4C2
  4D0/52E=4D1 531-556=561 587=565.582 675=627.674 =648.674 =6C7.674 =64A.674 958=915.93C =916.93C
  =917.93C =91C.93C =921.93C =922.93C =92B.93C =92F.93C 9DC=9A1.9BC =9A2.9BC 9DF=9AF.9BC
  A33=A32.A3C A36=A38.A3C A59=A16.A3C =A17.A3C =A1C.A3C A5E=A2B.A3C B5C=B21.B3C =B22.B3C
  E33=E4D.E32 EB3=ECD.EB2 EDC=EAB.E99 =EAB.EA1 F0C=F0B F43=F42.FB7 F4D=F4C.FB7 F52=F51.FB7
  F57=F56.FB7 F5C=F5B.FB7 F69=F40.FB5 F73=F71.F72 F75=F71.F74 =FB2.F80 =FB2.F71.F80 =FB3.F80
  =FB3.F71.F80 F81=F71.F80 F93=F92.FB7 F9D=F9C.FB7 FA2=FA1.FB7 FA7=FA6.FB7 FAC=FAB.FB7 FB9=F90.FB5
  10A0-10C5=2D00 10C7=2D27 10CD=2D2D 10FC=10DC 115F-1160= 13F8-13FD=13F0 17B4-17B5= 180B-180F=
  1C80=432 =434 =43E 1C83-1C84=441 =442 =44A =463 =A64B =1C8A 1C90-1CBA=10D0 1CBD-1CBF=10FD
  1D2C=61 =E6 1D2E/1D30=62 1D31/1D39=65 1D32=1DD 1D34/1D3A=68 1D3C=6F =223 =70 =72 1D40-1D41=74
  =77 =61 1D44-1D45=250 =1D02 =62 1D48-1D49=64 =259 1D4B-1D4C=25B =67 1D4F=6B 1D50/1D52=6D
  1D51=14B 1D53=254 1D54-1D55=1D16 =70 1D57-1D58=74 =1D1D =26F =76 =1D25 1D5D-1D5F=3B2
  1D60-1D61=3C6 =69 =72 1D64-1D65=75 1D66-1D67=3B2 =3C1 1D69-1D6A=3C6 1D78=43D 1D9B=252 =63 =255
  =F0 =25C =66 =25F =261 =265 1DA4-1DA6=268 =1D7B =29D =26D =1D85 =29F =271 =270 1DAE-1DB1=272
  =278 1DB3-1DB4=282 =1AB 1DB6-1DB7=289 =1D1C 1DB9-1DBA=28B =7A 1DBC-1DBE=290 =3B8 1E00/1E94=1E01
  1E9A=61.2BE =1E61 1E9E=DF 1EA0/1EFE=1EA1 1F08-1F0F=1F00 1F18-1F1D=1F10 1F28-1F2F=1F20
  1F38-1F3F=1F30 1F48-1F4D=1F40 1F59/1F5F=1F51 1F68-1F6F=1F60 1F71=3AC 1F73=3AD 1F75=3AE 1F77=3AF
  1F79=3CC 1F7B=3CD 1F7D=3CE 1F80=1F00.3B9 =1F01.3B9 =1F02.3B9 =1F03.3B9 =1F04.3B9 =1F05.3B9
  =1F06.3B9 =1F07.3B9 =1F00.3B9 =1F01.3B9 =1F02.3B9 =1F03.3B9 =1F04.3B9 =1F05.3B9 =1F06.3B9
  =1F07.3B9 =1F20.3B9 =1F21.3B9 =1F22.3B9 =1F23.3B9 =1F24.3B9 =1F25.3B9 =1F26.3B9 =1F27.3B9
  =1F20.3B9 =1F21.3B9 =1F22.3B9 =1F23.3B9 =1F24.3B9 =1F25.3B9 =1F26.3B9 =1F27.3B9 =1F60.3B9
  =1F61.3B9 =1F62.3B9 =1F63.3B9 =1F64.3B9 =1F65.3B9 =1F66.3B9 =1F67.3B9 =1F60.3B9 =1F61.3B9
  =1F62.3B9 =1F63.3B9 =1F64.3B9 =1F65.3B9 =1F66.3B9 =1F67.3B9 1FB2=1F70.3B9 =3B1.3B9 =3AC.3B9
  1FB7=1FB6.3B9 1FB8-1FB9=1FB0 =1F70 =3AC =3B1.3B9 =20.313 =3B9 =20.313 =20.342 =20.308.342
  =1F74.3B9 =3B7.3B9 =3AE.3B9 1FC7=1FC6.3B9 1FC8/1FCA=1F72 1FC9=3AD 1FCB=3AE =3B7.3B9 =20.313.300
  =20.313.301 =20.313.342 1FD3=390 1FD8-1FD9=1FD0 =1F76 =3AF 1FDD=20.314.300 =20.314.301
  =20.314.342 1FE3=3B0 1FE8-1FE9=1FE0 =1F7A =3CD =1FE5 =20.308.300 =20.308.301 =60 1FF2=1F7C.3B9
  =3C9.3B9 =3CE.3B9 1FF7=1FF6.3B9 =1F78 1FF9/1FFB=3CC 1FFA=1F7C 1FFC=3C9.3B9 =20.301 =20.314
  2000=20 =20 =20 =20 =20 =20 =20 =20 =20 =20 =20 = 2011=2010 2017=20.333 202F=20 2033=2032.2032
  =2032.2032.2032 2036=2035.2035 =2035.2035.2035 203C=21.21 203E=20.305 2047=3F.3F =3F.21 =21.3F
  2057=2032.2032.2032.2032 205F=20 2060-2064= 206A-206F= =30 =69 2074-2079=34 =2B =2212 =3D
  207D-207E=28 =6E 2080-2089=30 =2B =2212 =3D 208D-208E=28 2090=61 =65 =6F =78 =259 =68
  2096-2099=6B =70 209B-209C=73 20A8=72.73 2100=61.2F.63 =61.2F.73 =63 =B0.63 2105=63.2F.6F
  =63.2F.75 =25B 2109=B0.66 210A-210B=67 =68 =68 =68 =127 =69 =69 =6C 2113/2115=6C =6E.6F
  2119-211B=70 =72 =72 2120=73.6D =74.65.6C =74.6D 2124=7A 2126=3C9 2128=7A 212A=6B =E5
  212C-212D=62 212F=65 2130-2131=65 =214E =6D =6F 2135-2138=5D0 =69 213B=66.61.78 =3C0 =3B3 =3B3
  =3C0 =2211 2145=64 2146-2147=64 2148-2149=69 2150=31.2044.37 =31.2044.39 =31.2044.31.30
  =31.2044.33 =32.2044.33 =31.2044.35 =32.2044.35 =33.2044.35 =34.2044.35 =31.2044.36 =35.2044.36
  =31.2044.38 =33.2044.38 =35.2044.38 =37.2044.38 =31.2044 =69 =69.69 =69.69.69 =69.76 =76 =76.69
  =76.69.69 =76.69.69.69 =69.78 =78 =78.69 =78.69.69 =6C 216D-216E=63 =6D =69 =69.69 =69.69.69
  =69.76 =76 =76.69 =76.69.69 =76.69.69.69 =69.78 =78 =78.69 =78.69.69 =6C 217D-217E=63 =6D
  2183=2184 2189=30.2044.33 222C=222B.222B =222B.222B.222B 222F=222E.222E =222E.222E.222E
  2329-232A=3008 2460-2468=31 =31.30 =31.31 =31.32 =31.33 =31.34 =31.35 =31.36 =31.37 =31.38
  =31.39 =32.30 =28.31.29 =28.32.29 =28.33.29 =28.34.29 =28.35.29 =28.36.29 =28.37.29 =28.38.29
  =28.39.29 =28.31.30.29 =28.31.31.29 =28.31.32.29 =28.31.33.29 =28.31.34.29 =28.31.35.29
  =28.31.36.29 =28.31.37.29 =28.31.38.29 =28.31.39.29 =28.32.30.29 249C=28.61.29 =28.62.29
  =28.63.29 =28.64.29 =28.65.29 =28.66.29 =28.67.29 =28.68.29 =28.69.29 =28.6A.29 =28.6B.29
  =28.6C.29 =28.6D.29 =28.6E.29 =28.6F.29 =28.70.29 =28.71.29 =28.72.29 =28.73.29 =28.74.29
  =28.75.29 =28.76.29 =28.77.29 =28.78.29 =28.79.29 =28.7A.29 24B6-24CF=61 24D0-24E9=61 =30
  2A0C=222B.222B.222B.222B 2A74=3A.3A.3D =3D.3D =3D.3D.3D 2ADC=2ADD.338 2C00-2C2F=2C30 2C60=2C61
  2C62=26B =1D7D =27D 2C67/2C6B=2C68 2C6D=251 =271 =250 =252 2C72=2C73 2C75=2C76 2C7C=6A =76
  2C7E-2C7F=23F 2C80/2CE2=2C81 2CEB/2CED=2CEC 2CF2=2CF3 2D6F=2D61 2E9F=6BCD 2EF3=9F9F 2F00=4E00
  =4E28 =4E36 =4E3F =4E59 =4E85 =4E8C =4EA0 =4EBA =513F =5165 =516B =5182 =5196 =51AB =51E0 =51F5
  =5200 =529B =52F9 =5315 =531A =5338 =5341 =535C =5369 =5382 =53B6 =53C8 =53E3 =56D7 =571F =58EB
  =5902 =590A =5915 =5927 =5973 =5B50 =5B80 =5BF8 =5C0F =5C22 =5C38 =5C6E =5C71 =5DDB =5DE5 =5DF1
  =5DFE =5E72 =5E7A =5E7F =5EF4 =5EFE =5F0B =5F13 =5F50 =5F61 =5F73 =5FC3 =6208 =6236 =624B =652F
  =6534 =6587 =6597 =65A4 =65B9 =65E0 =65E5 =66F0 =6708 =6728 =6B20 =6B62 =6B79 =6BB3 =6BCB =6BD4
  =6BDB =6C0F =6C14 =6C34 =706B =722A =7236 =723B =723F =7247 =7259 =725B =72AC =7384 =7389 =74DC
  =74E6 =7518 =751F =7528 =7530 =758B =7592 =7676 =767D =76AE =76BF =76EE =77DB =77E2 =77F3 =793A
  =79B8 =79BE =7A74 =7ACB =7AF9 =7C73 =7CF8 =7F36 =7F51 =7F8A =7FBD =8001 =800C =8012 =8033 =807F
  =8089 =81E3 =81EA =81F3 =81FC =820C =821B =821F =826E =8272 =8278 =864D =866B =8840 =884C =8863
  =897E =898B =89D2 =8A00 =8C37 =8C46 =8C55 =8C78 =8C9D =8D64 =8D70 =8DB3 =8EAB =8ECA =8F9B =8FB0
  =8FB5 =9091 =9149 =91C6 =91CC =91D1 =9577 =9580 =961C =96B6 =96B9 =96E8 =9751 =975E =9762 =9769
  =97CB =97ED =97F3 =9801 =98A8 =98DB =98DF =9996 =9999 =99AC =9AA8 =9AD8 =9ADF =9B25 =9B2F =9B32
  =9B3C =9B5A =9CE5 =9E75 =9E7F =9EA5 =9EBB =9EC3 =9ECD =9ED1 =9EF9 =9EFD =9F0E =9F13 =9F20 =9F3B
  =9F4A =9F52 =9F8D =9F9C =9FA0 3000=20 3002=2E 3036=3012 3038=5341 3039-303A=5344 309B=20.3099
  =20.309A 309F=3088.308A 30FF=30B3.30C8 3131-3132=1100 3133/3135=11AA 3134=1102 3136=11AD
  3137-3139=1103 313A-313F=11B0 =111A 3141-3143=1106 =1121 3145-314E=1109 314F-3163=1161 =
  3165-3166=1114 3167-3168=11C7 =11CC =11CE =11D3 =11D7 =11D9 =111C =11DD =11DF 3171-3172=111D
  =1120 3174-3175=1122 =1127 =1129 3178-317C=112B =1132 =1136 =1140 =1147 =114C 3182-3183=11F1
  3184-3186=1157 3187-3188=1184 =1188 318A-318B=1191 =1194 =119E =11A1 3192=4E00 =4E8C =4E09 =56DB
  =4E0A =4E2D =4E0B =7532 =4E59 =4E19 =4E01 =5929 =5730 =4EBA 3200=28.1100.29 =28.1102.29
  =28.1103.29 =28.1105.29 =28.1106.29 =28.1107.29 =28.1109.29 =28.110B.29 =28.110C.29 =28.110E.29
  =28.110F.29 =28.1110.29 =28.1111.29 =28.1112.29 =28.AC00.29 =28.B098.29 =28.B2E4.29 =28.B77C.29
  =28.B9C8.29 =28.BC14.29 =28.C0AC.29 =28.C544.29 =28.C790.29 =28.CC28.29 =28.CE74.29 =28.D0C0.29
  =28.D30C.29 =28.D558.29 =28.C8FC.29 =28.C624.C804.29 =28.C624.D6C4.29 3220=28.4E00.29
  =28.4E8C.29 =28.4E09.29 =28.56DB.29 =28.4E94.29 =28.516D.29 =28.4E03.29 =28.516B.29 =28.4E5D.29
  =28.5341.29 =28.6708.29 =28.706B.29 =28.6C34.29 =28.6728.29 =28.91D1.29 =28.571F.29 =28.65E5.29
  =28.682A.29 =28.6709.29 =28.793E.29 =28.540D.29 =28.7279.29 =28.8CA1.29 =28.795D.29 =28.52B4.29
  =28.4EE3.29 =28.547C.29 =28.5B66.29 =28.76E3.29 =28.4F01.29 =28.8CC7.29 =28.5354.29 =28.796D.29
  =28.4F11.29 =28.81EA.29 =28.81F3.29 =554F =5E7C =6587 =7B8F 3250=70.74.65 =32.31 =32.32 =32.33
  =32.34 =32.35 =32.36 =32.37 =32.38 =32.39 =33.30 =33.31 =33.32 =33.33 =33.34 =33.35 =1100
  3261-3262=1102 3263-3265=1105 =1109 3267-3268=110B 3269-326D=110E =AC00 =B098 =B2E4 =B77C =B9C8
  =BC14 =C0AC =C544 =C790 =CC28 =CE74 =D0C0 =D30C =D558 =CC38.ACE0 =C8FC.C758 =C6B0 3280=4E00
  =4E8C =4E09 =56DB =4E94 =516D =4E03 =516B =4E5D =5341 =6708 =706B =6C34 =6728 =91D1 =571F =65E5
  =682A =6709 =793E =540D =7279 =8CA1 =795D =52B4 =79D8 =7537 =5973 =9069 =512A =5370 =6CE8 =9805
  =4F11 =5199 =6B63 =4E0A =4E2D =4E0B =5DE6 =53F3 =533B =5B97 =5B66 =76E3 =4F01 =8CC7 =5354 =591C
  =33.36 =33.37 =33.38 =33.39 =34.30 =34.31 =34.32 =34.33 =34.34 =34.35 =34.36 =34.37 =34.38
  =34.39 =35.30 =31.6708 =32.6708 =33.6708 =34.6708 =35.6708 =36.6708 =37.6708 =38.6708 =39.6708
  =31.30.6708 =31.31.6708 =31.32.6708 =68.67 =65.72.67 =65.76 =6C.74.64 =30A2 =30A4 =30A6 =30A8
  32D4-32D5=30AA =30AD =30AF =30B1 =30B3 =30B5 =30B7 =30B9 =30BB =30BD =30BF =30C1 =30C4 =30C6
  =30C8 32E4-32E9=30CA =30D2 =30D5 =30D8 =30DB 32EE-32F2=30DE =30E4 =30E6 32F5-32FA=30E8
  32FB-32FE=30EF =4EE4.548C =30A2.30D1.30FC.30C8 =30A2.30EB.30D5.30A1 =30A2.30F3.30DA.30A2
  =30A2.30FC.30EB =30A4.30CB.30F3.30B0 =30A4.30F3.30C1 =30A6.30A9.30F3 =30A8.30B9.30AF.30FC.30C9
  =30A8.30FC.30AB.30FC =30AA.30F3.30B9 =30AA.30FC.30E0 =30AB.30A4.30EA =30AB.30E9.30C3.30C8
  =30AB.30ED.30EA.30FC =30AC.30ED.30F3 =30AC.30F3.30DE =30AE.30AC =30AE.30CB.30FC
  =30AD.30E5.30EA.30FC =30AE.30EB.30C0.30FC =30AD.30ED =30AD.30ED.30B0.30E9.30E0
  =30AD.30ED.30E1.30FC.30C8.30EB =30AD.30ED.30EF.30C3.30C8 =30B0.30E9.30E0
  =30B0.30E9.30E0.30C8.30F3 =30AF.30EB.30BC.30A4.30ED =30AF.30ED.30FC.30CD =30B1.30FC.30B9
  =30B3.30EB.30CA =30B3.30FC.30DD =30B5.30A4.30AF.30EB =30B5.30F3.30C1.30FC.30E0
  =30B7.30EA.30F3.30B0 =30BB.30F3.30C1 =30BB.30F3.30C8 =30C0.30FC.30B9 =30C7.30B7 =30C9.30EB
  =30C8.30F3 =30CA.30CE =30CE.30C3.30C8 =30CF.30A4.30C4 =30D1.30FC.30BB.30F3.30C8 =30D1.30FC.30C4
  =30D0.30FC.30EC.30EB =30D4.30A2.30B9.30C8.30EB =30D4.30AF.30EB =30D4.30B3 =30D3.30EB
  =30D5.30A1.30E9.30C3.30C9 =30D5.30A3.30FC.30C8 =30D6.30C3.30B7.30A7.30EB =30D5.30E9.30F3
  =30D8.30AF.30BF.30FC.30EB =30DA.30BD =30DA.30CB.30D2 =30D8.30EB.30C4 =30DA.30F3.30B9
  =30DA.30FC.30B8 =30D9.30FC.30BF =30DD.30A4.30F3.30C8 =30DC.30EB.30C8 =30DB.30F3 =30DD.30F3.30C9
  =30DB.30FC.30EB =30DB.30FC.30F3 =30DE.30A4.30AF.30ED =30DE.30A4.30EB =30DE.30C3.30CF
  =30DE.30EB.30AF =30DE.30F3.30B7.30E7.30F3 =30DF.30AF.30ED.30F3 =30DF.30EA
  =30DF.30EA.30D0.30FC.30EB =30E1.30AC =30E1.30AC.30C8.30F3 =30E1.30FC.30C8.30EB =30E4.30FC.30C9
  =30E4.30FC.30EB =30E6.30A2.30F3 =30EA.30C3.30C8.30EB =30EA.30E9 =30EB.30D4.30FC
  =30EB.30FC.30D6.30EB =30EC.30E0 =30EC.30F3.30C8.30B2.30F3 =30EF.30C3.30C8 =30.70B9 =31.70B9
  =32.70B9 =33.70B9 =34.70B9 =35.70B9 =36.70B9 =37.70B9 =38.70B9 =39.70B9 =31.30.70B9 =31.31.70B9
  =31.32.70B9 =31.33.70B9 =31.34.70B9 =31.35.70B9 =31.36.70B9 =31.37.70B9 =31.38.70B9 =31.39.70B9
  =32.30.70B9 =32.31.70B9 =32.32.70B9 =32.33.70B9 =32.34.70B9 =68.70.61 =64.61 =61.75 =62.61.72
  =6F.76 =70.63 =64.6D =64.6D.32 =64.6D.33 =69.75 =5E73.6210 =662D.548C =5927.6B63 =660E.6CBB
  =682A.5F0F.4F1A.793E =70.61 =6E.61 =3BC.61 =6D.61 =6B.61 =6B.62 =6D.62 =67.62 =63.61.6C
  =6B.63.61.6C =70.66 =6E.66 =3BC.66 =3BC.67 =6D.67 =6B.67 =68.7A =6B.68.7A =6D.68.7A =67.68.7A
  =74.68.7A =3BC.6C =6D.6C =64.6C =6B.6C =66.6D =6E.6D =3BC.6D =6D.6D =63.6D =6B.6D =6D.6D.32
  =63.6D.32 =6D.32 =6B.6D.32 =6D.6D.33 =63.6D.33 =6D.33 =6B.6D.33 =6D.2215.73 =6D.2215.73.32
  =70.61 =6B.70.61 =6D.70.61 =67.70.61 =72.61.64 =72.61.64.2215.73 =72.61.64.2215.73.32 =70.73
  =6E.73 =3BC.73 =6D.73 =70.76 =6E.76 =3BC.76 =6D.76 =6B.76 =6D.76 =70.77 =6E.77 =3BC.77 =6D.77
  =6B.77 =6D.77 =6B.3C9 =6D.3C9 33C3=62.71 =63.63 =63.64 =63.2215.6B.67 33C8=64.62 =67.79 =68.61
  =68.70 =69.6E =6B.6B =6B.6D =6B.74 =6C.6D =6C.6E =6C.6F.67 =6C.78 =6D.62 =6D.69.6C =6D.6F.6C
  =70.68 33D9=70.70.6D =70.72 =73.72 =73.76 =77.62 =76.2215.6D =61.2215.6D =31.65E5 =32.65E5
  =33.65E5 =34.65E5 =35.65E5 =36.65E5 =37.65E5 =38.65E5 =39.65E5 =31.30.65E5 =31.31.65E5
  =31.32.65E5 =31.33.65E5 =31.34.65E5 =31.35.65E5 =31.36.65E5 =31.37.65E5 =31.38.65E5 =31.39.65E5
  =32.30.65E5 =32.31.65E5 =32.32.65E5 =32.33.65E5 =32.34.65E5 =32.35.65E5 =32.36.65E5 =32.37.65E5
  =32.38.65E5 =32.39.65E5 =33.30.65E5 =33.31.65E5 =67.61.6C A640/A66C=A641 A680/A69A=A681 A69C=44A
  =44C A722/A72E=A723 A732/A76E=A733 A770=A76F A779/A77B=A77A A77D=1D79 A77E/A786=A77F A78B=A78C
  A78D=265 A790/A792=A791 A796/A7A8=A797 A7AA=266 =25C =261 =26C =26A A7B0=29E =287 =29D =AB53
  A7B4/A7C2=A7B5 A7C4=A794 =282 =1D8E A7C7/A7C9=A7C8 A7CB=264 A7CC/A7DA=A7CD A7DC=19B A7F1=73 =63
  =66 =71 =A7F6 A7F8=127 =153 AB5C=A727 =AB37 =26B =AB52 AB69=28D AB70-ABBF=13A0 F900=8C48 =66F4
  =8ECA =8CC8 =6ED1 =4E32 =53E5 =9F9C =9F9C =5951 =91D1 =5587 =5948 =61F6 =7669 =7F85 =863F =87BA
  =88F8 =908F =6A02 =6D1B =70D9 =73DE =843D =916A =99F1 =4E82 =5375 =6B04 =721B =862D =9E1E =5D50
  =6FEB =85CD =8964 =62C9 =81D8 =881F =5ECA =6717 =6D6A =72FC =90CE =4F86 =51B7 =52DE =64C4 =6AD3
  =7210 =76E7 =8001 =8606 =865C =8DEF =9732 =9B6F =9DFA =788C =797F =7DA0 =83C9 =9304 =9E7F =8AD6
  =58DF =5F04 =7C60 =807E =7262 =78CA =8CC2 =96F7 =58D8 =5C62 =6A13 =6DDA =6F0F =7D2F =7E37 =964B
  =52D2 =808B =51DC =51CC =7A1C =7DBE =83F1 =9675 =8B80 =62CF =6A02 =8AFE =4E39 =5BE7 =6012 =7387
  =7570 =5317 =78FB =4FBF =5FA9 =4E0D =6CCC =6578 =7D22 =53C3 =585E =7701 =8449 =8AAA =6BBA =8FB0
  =6C88 =62FE =82E5 =63A0 =7565 =4EAE =5169 =51C9 =6881 =7CE7 =826F =8AD2 =91CF =52F5 =5442 =5973
  =5EEC =65C5 =6FFE =792A =95AD =9A6A =9E97 =9ECE =529B =66C6 =6B77 =8F62 =5E74 =6190 =6200 =649A
  =6F23 =7149 =7489 =79CA =7DF4 =806F =8F26 =84EE =9023 =934A =5217 =52A3 =54BD =70C8 =88C2 =8AAA
  =5EC9 =5FF5 =637B =6BAE =7C3E =7375 =4EE4 =56F9 =5BE7 =5DBA =601C =73B2 =7469 =7F9A =8046 =9234
  =96F6 =9748 =9818 =4F8B =79AE =91B4 =96B8 =60E1 =4E86 =50DA =5BEE =5C3F =6599 =6A02 =71CE =7642
  =84FC =907C =9F8D =6688 =962E =5289 =677B =67F3 =6D41 =6E9C =7409 =7559 =786B =7D10 =985E =516D
  =622E =9678 =502B =5D19 =6DEA =8F2A =5F8B =6144 =6817 =7387 =9686 =5229 =540F =5C65 =6613 =674E
  =68A8 =6CE5 =7406 =75E2 =7F79 =88CF =88E1 =91CC =96E2 =533F =6EBA =541D =71D0 =7498 =85FA =96A3
  =9C57 =9E9F =6797 =6DCB =81E8 =7ACB =7B20 =7C92 =72C0 =7099 =8B58 =4EC0 =8336 =523A =5207 =5EA6
  =62D3 =7CD6 =5B85 =6D1E =66B4 =8F3B =884C =964D =898B =5ED3 =5140 =55C0 FA10=585A FA12=6674
  FA15=51DE =732A =76CA =793C =795E =7965 =798F =9756 =7CBE =7FBD FA20=8612 FA22=8AF8 FA25=9038
  =90FD FA2A=98EF =98FC =9928 =9DB4 =90DE =96B7 =4FAE =50E7 =514D =52C9 =52E4 =5351 =559D =5606
  =5668 =5840 =58A8 =5C64 =5C6E =6094 =6168 =618E =61F2 =654F =65E2 =6691 =6885 =6D77 =6E1A =6F22
  =716E =722B =7422 =7891 =793E =7949 =7948 =7950 =7956 =795D FA52-FA53=798D =7A40 =7A81 =7BC0
  =7DF4 =7E09 =7E41 =7F72 =8005 =81ED =8279 =8279 =8457 =8910 =8996 =8B01 =8B39 =8CD3 =8D08 =8FB6
  =9038 =96E3 =97FF =983B =6075 =242EE =8218 FA70=4E26 =51B5 =5168 =4F80 =5145 =5180 =52C7 =52FA
  =559D =5555 =5599 =55E2 =585A =58B3 =5944 =5954 =5A62 =5B28 =5ED2 =5ED9 =5F69 =5FAD =60D8 =614E
  =6108 =618E =6160 =61F2 =6234 =63C4 =641C =6452 =6556 =6674 =6717 =671B =6756 =6B79 =6BBA =6D41
  =6EDB =6ECB =6F22 =701E =716E =77A7 =7235 =72AF =732A =7471 =7506 =753B =761D =761F =76CA =76DB
  =76F4 =774A =7740 =78CC =7AB1 =7BC0 =7C7B =7D5B =7DF4 =7F3E =8005 =8352 =83EF =8779 =8941 =8986
  =8996 =8ABF =8AF8 =8ACB =8B01 =8AFE =8AED =8B39 =8B8A =8D08 =8F38 =9072 =9199 =9276 =967C =96E3
  =9756 =97DB =97FF =980B =983B =9B12 =9F9C =2284A =22844 =233D5 =3B9D =4018 =4039 =25249 =25CD0
  =27ED3 =9F43 =9F8E FB00=66.66 =66.69 =66.6C =66.66.69 =66.66.6C =73.74 =73.74 FB13=574.576
  =574.565 =574.56B =57E.576 =574.56D FB1D=5D9.5B4 FB1F=5F2.5B7 =5E2 =5D0 FB22-FB23=5D3
  FB24-FB26=5DB =5E8 =5EA =2B =5E9.5C1 =5E9.5C2 =5E9.5BC.5C1 =5E9.5BC.5C2 =5D0.5B7 =5D0.5B8
  =5D0.5BC =5D1.5BC =5D2.5BC =5D3.5BC =5D4.5BC =5D5.5BC =5D6.5BC FB38=5D8.5BC =5D9.5BC =5DA.5BC
  =5DB.5BC =5DC.5BC FB3E=5DE.5BC FB40=5E0.5BC =5E1.5BC FB43=5E3.5BC =5E4.5BC FB46=5E6.5BC =5E7.5BC
  =5E8.5BC =5E9.5BC =5EA.5BC =5D5.5B9 =5D1.5BF =5DB.5BF =5E4.5BF =5D0.5DC =671 =671 =67B =67B =67B
  =67B =67E =67E FB58/FB5A=67E FB59/FB5B=67E =680 =680 =67A =67A =67A =67A =67F =67F =67F =67F
  =679 =679 =679 =679 =6A4 =6A4 FB6C/FB6E=6A4 FB6D/FB6F=6A4 =6A6 =6A6 =684 =684 =684 =684 =683
  =683 =683 =683 =686 =686 =686 FB7D-FB7E=686 =687 =687 =687 =68D =68D FB84/FB86=68C FB85/FB87=68C
  =688 =688 =698 =698 =691 =691 =6A9 =6A9 =6A9 =6A9 =6AF =6AF =6AF =6AF =6B3 =6B3 =6B3 =6B3 =6B1
  =6B1 =6B1 =6B1 =6BA FB9F-FBA0=6BA =6BB =6BB =6BB =6C0 FBA5-FBA6=6C0 =6C1 =6C1 =6C1 =6BE =6BE
  =6BE =6BE =6D2 FBAF-FBB0=6D2 =6D3 FBD3=6AD =6AD =6AD =6AD =6C7 =6C7 FBD9/FBDB=6C6 FBDA/FBDC=6C6
  =6C7.674 =6CB =6CB =6C5 =6C5 =6C9 =6C9 =6D0 =6D0 =6D0 =6D0 =649 =649 =626.627 =626.627 =626.6D5
  =626.6D5 =626.648 =626.648 =626.6C7 =626.6C7 =626.6C6 =626.6C6 =626.6C8 =626.6C8 =626.6D0
  =626.6D0 =626.6D0 =626.649 =626.649 =626.649 =6CC =6CC =6CC =6CC =626.62C =626.62D =626.645
  =626.649 =626.64A =628.62C =628.62D =628.62E =628.645 =628.649 =628.64A =62A.62C =62A.62D
  =62A.62E =62A.645 =62A.649 =62A.64A =62B.62C =62B.645 =62B.649 =62B.64A =62C.62D =62C.645
  =62D.62C =62D.645 =62E.62C =62E.62D =62E.645 =633.62C =633.62D =633.62E =633.645 =635.62D
  =635.645 =636.62C =636.62D =636.62E =636.645 =637.62D =637.645 =638.645 =639.62C =639.645
  =63A.62C =63A.645 =641.62C =641.62D =641.62E =641.645 =641.649 =641.64A =642.62D =642.645
  =642.649 =642.64A =643.627 =643.62C =643.62D =643.62E =643.644 =643.645 =643.649 =643.64A
  =644.62C =644.62D =644.62E =644.645 =644.649 =644.64A =645.62C =645.62D =645.62E =645.645
  =645.649 =645.64A =646.62C =646.62D =646.62E =646.645 =646.649 =646.64A =647.62C =647.645
  =647.649 =647.64A =64A.62C =64A.62D =64A.62E =64A.645 =64A.649 =64A.64A =630.670 =631.670
  =649.670 =20.64C.651 =20.64D.651 =20.64E.651 =20.64F.651 =20.650.651 =20.651.670 =626.631
  =626.632 =626.645 =626.646 =626.649 =626.64A =628.631 =628.632 =628.645 =628.646 =628.649
  =628.64A =62A.631 =62A.632 =62A.645 =62A.646 =62A.649 =62A.64A =62B.631 =62B.632 =62B.645
  =62B.646 =62B.649 =62B.64A =641.649 =641.64A =642.649 =642.64A =643.627 =643.644 =643.645
  =643.649 =643.64A =644.645 =644.649 =644.64A =645.627 =645.645 =646.631 =646.632 =646.645
  =646.646 =646.649 =646.64A =649.670 =64A.631 =64A.632 =64A.645 =64A.646 =64A.649 =64A.64A
  =626.62C =626.62D =626.62E =626.645 =626.647 =628.62C =628.62D =628.62E =628.645 =628.647
  =62A.62C =62A.62D =62A.62E =62A.645 =62A.647 =62B.645 =62C.62D =62C.645 =62D.62C =62D.645
  =62E.62C =62E.645 =633.62C =633.62D =633.62E =633.645 =635.62D =635.62E =635.645 =636.62C
  =636.62D =636.62E =636.645 =637.62D =638.645 =639.62C =639.645 =63A.62C =63A.645 =641.62C
  =641.62D =641.62E =641.645 =642.62D =642.645 =643.62C =643.62D =643.62E =643.644 =643.645
  =644.62C =644.62D =644.62E =644.645 =644.647 =645.62C =645.62D =645.62E =645.645 =646.62C
  =646.62D =646.62E =646.645 =646.647 =647.62C =647.645 =647.670 =64A.62C =64A.62D =64A.62E
  =64A.645 =64A.647 =626.645 =626.647 =628.645 =628.647 =62A.645 =62A.647 =62B.645 =62B.647
  =633.645 =633.647 =634.645 =634.647 =643.644 =643.645 =644.645 =646.645 =646.647 =64A.645
  =64A.647 =640.64E.651 =640.64F.651 =640.650.651 =637.649 =637.64A =639.649 =639.64A =63A.649
  =63A.64A =633.649 =633.64A =634.649 =634.64A =62D.649 =62D.64A =62C.649 =62C.64A =62E.649
  =62E.64A =635.649 =635.64A =636.649 =636.64A =634.62C =634.62D =634.62E =634.645 =634.631
  =633.631 =635.631 =636.631 =637.649 =637.64A =639.649 =639.64A =63A.649 =63A.64A =633.649
  =633.64A =634.649 =634.64A =62D.649 =62D.64A =62C.649 =62C.64A =62E.649 =62E.64A =635.649
  =635.64A =636.649 =636.64A =634.62C =634.62D =634.62E =634.645 =634.631 =633.631 =635.631
  =636.631 =634.62C =634.62D =634.62E =634.645 =633.647 =634.647 =637.645 =633.62C =633.62D
  =633.62E =634.62C =634.62D =634.62E =637.645 =638.645 =627.64B =627.64B FD50=62A.62C.645
  =62A.62D.62C =62A.62D.62C =62A.62D.645 =62A.62E.645 =62A.645.62C =62A.645.62D =62A.645.62E
  =62C.645.62D =62C.645.62D =62D.645.64A =62D.645.649 =633.62D.62C =633.62C.62D =633.62C.649
  =633.645.62D =633.645.62D =633.645.62C =633.645.645 =633.645.645 =635.62D.62D =635.62D.62D
  =635.645.645 =634.62D.645 =634.62D.645 =634.62C.64A =634.645.62E =634.645.62E =634.645.645
  =634.645.645 =636.62D.649 =636.62E.645 =636.62E.645 =637.645.62D =637.645.62D =637.645.645
  =637.645.64A =639.62C.645 =639.645.645 =639.645.645 =639.645.649 =63A.645.645 =63A.645.64A
  =63A.645.649 =641.62E.645 =641.62E.645 =642.645.62D =642.645.645 =644.62D.645 =644.62D.64A
  =644.62D.649 =644.62C.62C =644.62C.62C =644.62E.645 =644.62E.645 =644.645.62D =644.645.62D
  =645.62D.62C =645.62D.645 =645.62D.64A =645.62C.62D =645.62C.645 =645.62E.62C =645.62E.645
  FD92=645.62C.62E =647.645.62C =647.645.645 =646.62D.645 =646.62D.649 =646.62C.645 =646.62C.645
  =646.62C.649 =646.645.64A =646.645.649 =64A.645.645 =64A.645.645 =628.62E.64A =62A.62C.64A
  =62A.62C.649 =62A.62E.64A =62A.62E.649 =62A.645.64A =62A.645.649 =62C.645.64A =62C.62D.649
  =62C.645.649 =633.62E.649 =635.62D.64A =634.62D.64A =636.62D.64A =644.62C.64A =644.645.64A
  =64A.62D.64A =64A.62C.64A =64A.645.64A =645.645.64A =642.645.64A =646.62D.64A =642.645.62D
  =644.62D.645 =639.645.64A =643.645.64A =646.62C.62D =645.62E.64A =644.62C.645 =643.645.645
  =644.62C.645 =646.62C.62D =62C.62D.64A =62D.62C.64A =645.62C.64A =641.645.64A =628.62D.64A
  =643.645.645 =639.62C.645 =635.645.645 =633.62E.64A =646.62C.64A FDF0=635.644.6D2 =642.644.6D2
  =627.644.644.647 =627.643.628.631 =645.62D.645.62F =635.644.639.645 =631.633.648.644
  =639.644.64A.647 =648.633.644.645 =635.644.649
  =635.644.649.20.627.644.644.647.20.639.644.64A.647.20.648.633.644.645
  =62C.644.20.62C.644.627.644.647 =631.6CC.627.644 FE00-FE0F= =2C =3001 FE13-FE14=3A =21 =3F
  FE17-FE18=3016 FE31=2014 =2013 =5F =5F FE35-FE36=28 =7B =7D FE39-FE3A=3014 FE3B-FE3C=3010
  FE3D-FE3E=300A FE3F-FE40=3008 FE41-FE44=300C FE47=5B =5D =20.305 =20.305 =20.305 =20.305 =5F =5F
  =5F =2C =3001 FE54=3B =3A =3F =21 =2014 FE59-FE5A=28 =7B =7D FE5D-FE5E=3014 =23 =26 FE61-FE62=2A
  =2D =3C =3E =3D FE68=5C FE69-FE6A=24 =40 FE70=20.64B =640.64B =20.64C FE74=20.64D FE76=20.64E
  =640.64E =20.64F =640.64F =20.650 =640.650 =20.651 =640.651 =20.652 =640.652 FE80-FE81=621
  FE82-FE83=622 FE84-FE85=623 FE86-FE87=624 FE88-FE89=625 =626 =626 FE8C-FE8D=626 FE8E-FE8F=627
  =628 =628 FE92-FE93=628 FE94-FE95=629 =62A =62A FE98-FE99=62A =62B =62B FE9C-FE9D=62B =62C =62C
  FEA0-FEA1=62C =62D =62D FEA4-FEA5=62D =62E =62E FEA8-FEA9=62E FEAA-FEAB=62F FEAC-FEAD=630
  FEAE-FEAF=631 FEB0-FEB1=632 =633 =633 FEB4-FEB5=633 =634 =634 FEB8-FEB9=634 =635 =635
  FEBC-FEBD=635 =636 =636 FEC0-FEC1=636 =637 =637 FEC4-FEC5=637 =638 =638 FEC8-FEC9=638 =639 =639
  FECC-FECD=639 =63A =63A =63A =641 =641 =641 FED4-FED5=641 =642 =642 FED8-FED9=642 =643 =643
  FEDC-FEDD=643 =644 =644 FEE0-FEE1=644 =645 =645 FEE4-FEE5=645 =646 =646 FEE8-FEE9=646 =647 =647
  FEEC-FEED=647 FEEE-FEEF=648 FEF0-FEF1=649 =64A =64A =64A =644.622 =644.622 =644.623 =644.623
  =644.625 =644.625 =644.627 =644.627 FEFF= FF01-FF20=21 FF21-FF3A=61 FF3B-FF5E=5B FF5F-FF60=2985
  =2E FF62-FF63=300C =3001 =30FB =30F2 =30A1 =30A3 =30A5 =30A7 =30A9 =30E3 =30E5 =30E7 =30C3 =30FC
  =30A2 =30A4 =30A6 =30A8 FF75-FF76=30AA =30AD =30AF =30B1 =30B3 =30B5 =30B7 =30B9 =30BB =30BD
  =30BF =30C1 =30C4 =30C6 =30C8 FF85-FF8A=30CA =30D2 =30D5 =30D8 =30DB FF8F-FF93=30DE =30E4 =30E6
  FF96-FF9B=30E8 =30EF =30F3 FF9E-FF9F=3099 = FFA1-FFA2=1100 FFA3/FFA5=11AA FFA4=1102 FFA6=11AD
  FFA7-FFA9=1103 FFAA-FFAF=11B0 =111A FFB1-FFB3=1106 =1121 FFB5-FFBE=1109 FFC2-FFC7=1161
  FFCA-FFCF=1167 FFD2-FFD7=116D FFDA-FFDC=1173 FFE0-FFE1=A2 =AC =20.304 =A6 =A5 =20A9 FFE8=2502
  FFE9-FFEC=2190 =25A0 =25CB 10400-10427=10428 104B0-104D3=104D8 10570/10594=10597
  10571/10579=10598 1057D/10589=105A4 1058D/10591=105B4 10595=105BC 10781-10782=2D0 =E6 =299 =253
  10787/10789=2A3 10788=AB66 1078A=2A4 1078B-1078C=256 =1D91 =258 =25E =2A9 =264 =262 =260 =29B
  =127 =29C =267 =284 10799-1079A=2AA =26C =1DF04 =A78E =26E =1DF05 =28E =1DF06 =F8
  107A3-107A4=276 =71 =27A =1DF08 107A8-107A9=27D =280 =2A8 =2A6 =AB67 =2A7 =288 =2C71 107B2=28F
  107B3-107B4=2A1 =298 107B6-107B8=1C0 =1DF0A =1DF1E 10C80-10CB2=10CC0 10D50-10D65=10D70
  118A0-118BF=118C0 16E40-16E5F=16E60 16EA0-16EB8=16EBB 1BCA0-1BCA3= 1CCD6-1CCEF=61 1CCF0-1CCF9=30
  1D15E=1D157.1D165 =1D158.1D165 =1D158.1D165.1D16E =1D158.1D165.1D16F =1D158.1D165.1D170
  =1D158.1D165.1D171 =1D158.1D165.1D172 1D173-1D17A= 1D1BB=1D1B9.1D165 =1D1BA.1D165
  =1D1B9.1D165.1D16E =1D1BA.1D165.1D16E =1D1B9.1D165.1D16F =1D1BA.1D165.1D16F 1D400-1D419=61
  1D41A-1D433=61 1D434-1D44D=61 1D44E/1D466=61 1D44F/1D453=62 1D457/1D467=6A 1D468-1D481=61
  1D482-1D49B=61 1D49C/1D49E=61 =64 1D4A2=67 1D4A5-1D4A6=6A 1D4A9-1D4AC=6E 1D4AE-1D4B5=73
  1D4B6-1D4B9=61 1D4BB/1D4CF=66 1D4BE/1D4C2=69 1D4C6/1D4CE=71 1D4D0-1D4E9=61 1D4EA-1D503=61
  1D504-1D505=61 1D507-1D50A=64 1D50D-1D514=6A 1D516-1D51C=73 1D51E-1D537=61 1D538-1D539=61
  1D53B-1D53E=64 1D540-1D544=69 1D546=6F 1D54A-1D550=73 1D552-1D56B=61 1D56C-1D585=61
  1D586-1D59F=61 1D5A0-1D5B9=61 1D5BA-1D5D3=61 1D5D4-1D5ED=61 1D5EE-1D607=61 1D608-1D621=61
  1D622-1D63B=61 1D63C-1D655=61 1D656-1D66F=61 1D670-1D689=61 1D68A-1D6A3=61 =131 =237
  1D6A8-1D6B8=3B1 =3B8 1D6BA-1D6C0=3C3 =2207 1D6C2-1D6D2=3B1 =3C3 1D6D4-1D6DA=3C3 =2202 =3B5 =3B8
  =3BA =3C6 =3C1 =3C0 1D6E2-1D6F2=3B1 =3B8 1D6F4-1D6FA=3C3 =2207 1D6FC-1D70C=3B1 =3C3
  1D70E-1D714=3C3 =2202 =3B5 =3B8 =3BA =3C6 =3C1 =3C0 1D71C-1D72C=3B1 =3B8 1D72E-1D734=3C3 =2207
  1D736-1D746=3B1 =3C3 1D748-1D74E=3C3 =2202 =3B5 =3B8 =3BA =3C6 =3C1 =3C0 1D756-1D766=3B1 =3B8
  1D768-1D76E=3C3 =2207 1D770-1D780=3B1 =3C3 1D782-1D788=3C3 =2202 =3B5 =3B8 =3BA =3C6 =3C1 =3C0
  1D790-1D7A0=3B1 =3B8 1D7A2-1D7A8=3C3 =2207 1D7AA-1D7BA=3B1 =3C3 1D7BC-1D7C2=3C3 =2202 =3B5 =3B8
  =3BA =3C6 =3C1 =3C0 =3DD =3DD 1D7CE-1D7D7=30 1D7D8-1D7E1=30 1D7E2-1D7EB=30 1D7EC-1D7F5=30
  1D7F6-1D7FF=30 1E030-1E038=430 1E039-1E03B=43A 1E03C-1E046=43E =44B 1E048-1E049=44D =A689 =4D9
  =456 =458 =4E9 =4AF =4CF 1E051-1E059=430 1E05A-1E05B=43A 1E05C-1E05D=43E =441 1E05F-1E064=443
  1E065-1E066=44A =491 =456 =455 =45F =4AB =A651 =4B1 1E900-1E921=1E922 1EE00-1EE01=627 =62C =62F
  1EE05=648 =632 =62D =637 =64A 1EE0A-1EE0D=643 =633 =639 =641 =635 =642 =631 =634 1EE15-1EE16=62A
  =62E =630 =636 =638 =63A =66E =6BA =6A1 =66F 1EE21=628 =62C 1EE24=647 1EE27=62D 1EE29=64A
  1EE2A-1EE2D=643 =633 =639 =641 =635 =642 1EE34=634 1EE35-1EE36=62A =62E 1EE39=636 1EE3B=63A
  1EE42=62C 1EE47=62D 1EE49=64A 1EE4B/1EE4D=644 =633 =639 1EE51=635 =642 1EE54=634 1EE57=62E
  1EE59=636 1EE5B=63A 1EE5D=6BA 1EE5F=66F 1EE61=628 =62C 1EE64=647 1EE67=62D =637 =64A
  1EE6A/1EE6C=643 =646 =633 =639 =641 =635 =642 1EE74=634 1EE75-1EE76=62A =62E 1EE79=636 =638 =63A
  =66E 1EE7E=6A1 1EE80-1EE81=627 =62C =62F 1EE84-1EE85=647 =632 =62D =637 =64A 1EE8B-1EE8D=644
  =633 =639 =641 =635 =642 =631 =634 1EE95-1EE96=62A =62E =630 =636 =638 =63A 1EEA1=628 =62C =62F
  1EEA5=648 =632 =62D =637 =64A 1EEAB-1EEAD=644 =633 =639 =641 =635 =642 =631 =634 1EEB5-1EEB6=62A
  =62E =630 =636 =638 =63A 1F101=30.2C =31.2C =32.2C =33.2C =34.2C =35.2C =36.2C =37.2C =38.2C
  =39.2C 1F110=28.61.29 =28.62.29 =28.63.29 =28.64.29 =28.65.29 =28.66.29 =28.67.29 =28.68.29
  =28.69.29 =28.6A.29 =28.6B.29 =28.6C.29 =28.6D.29 =28.6E.29 =28.6F.29 =28.70.29 =28.71.29
  =28.72.29 =28.73.29 =28.74.29 =28.75.29 =28.76.29 =28.77.29 =28.78.29 =28.79.29 =28.7A.29
  =3014.73.3015 =63 =72 =63.64 =77.7A 1F130-1F149=61 =68.76 =6D.76 =73.64 =73.73 =70.70.76 =77.63
  1F16A=6D.63 =6D.64 =6D.72 1F190=64.6A 1F200=307B.304B =30B3.30B3 =30B5 1F210=624B =5B57 =53CC
  =30C7 =4E8C =591A =89E3 =5929 =4EA4 =6620 =7121 =6599 =524D =5F8C =518D =65B0 =521D =7D42 =751F
  =8CA9 =58F0 =5439 =6F14 =6295 =6355 =4E00 =4E09 =904A =5DE6 =4E2D =53F3 =6307 =8D70 =6253 =7981
  =7A7A =5408 =6E80 =6709 =6708 =7533 =5272 =55B6 =914D 1F240=3014.672C.3015 =3014.4E09.3015
  =3014.4E8C.3015 =3014.5B89.3015 =3014.70B9.3015 =3014.6253.3015 =3014.76D7.3015 =3014.52DD.3015
  =3014.6557.3015 1F250=5F97 =53EF 1FBF0-1FBF9=30 2F800=4E3D =4E38 =4E41 =20122 =4F60 =4FAE =4FBB
  =5002 =507A =5099 =50E7 =50CF =349E =2063A =514D =5154 =5164 =5177 =2051C =34B9 =5167 =518D
  =2054B =5197 =51A4 =4ECC =51AC =51B5 =291DF =51F5 =5203 =34DF =523B =5246 =5272 =5277 =3515
  =52C7 =52C9 =52E4 =52FA 2F829-2F82A=5305 =5317 =5349 =5351 =535A =5373 2F830/2F832=537D
  2F831=537F 2F833=537F =20A2C =7070 =53CA =53DF =20B63 =53EB =53F1 =5406 =549E =5438 =5448 =5468
  =54A2 =54F6 =5510 =5553 =5563 =5584 =5584 =5599 =55AB =55B3 =55C2 =5716 =5606 =5717 =5651 =5674
  =5207 =58EE =57CE =57F4 =580D =578B =5832 =5831 =58AC =214E4 =58F2 =58F7 =5906 =591A =5922 =5962
  =216A8 =216EA =59EC =5A1B =5A27 =59D8 =5A66 =36EE =36FC =5B08 =5B3E =5B3E =219C8 =5BC3 =5BD8
  =5BE7 =5BF3 =21B18 =5BFF =5C06 =5F53 =5C22 =3781 =5C60 =5C6E =5CC0 =5C8D 2F87B/2F87D=21DE4
  2F87C=5D43 2F87E=5D6E =5D6B =5D7C 2F881-2F882=5DE1 =382F =5DFD =5E28 =5E3D =5E69 =3862 =22183
  =387C =5EB0 =5EB3 =5EB6 =5ECA =2A392 =5EFE =22331 =22331 =8201 =5F22 =5F22 =38C7 =232B8 =261DA
  =5F62 =5F6B =38E3 =5F9A =5FCD =5FD7 =5FF9 =6081 =393A =391C =6094 =226D4 =60C7 =6148 =614C =614E
  =614C =617A =618E =61B2 =61A4 =61AF =61DE =61F2 =61F6 =6210 =621B =625D =62B1 =62D4 =6350 =22B0C
  =633D =62FC =6368 =6383 =63E4 =22BF1 =6422 =63C5 =63A9 =3A2E =6469 =647E =649D =6477 =3A6C =654F
  =656C =2300A =65E3 =66F8 =6649 =3B19 =6691 =3B08 =3AE4 =5192 =5195 =6700 =669C =80AD =43D9 =6717
  =671B =6721 =675E =6753 =233C3 =3B49 =67FA =6785 =6852 =6885 =2346D =688E =681F =6914 =3B9D
  =6942 =69A3 =69EA =6AA8 =236A3 =6ADB =3C18 =6B21 =238A7 =6B54 =3C4E =6B72 =6B9F 2F8F5-2F8F6=6BBA
  =23A8D =21D0B =23AFA =6C4E =23CBC =6CBF =6CCD =6C67 =6D16 =6D3E =6D77 =6D41 =6D69 =6D78 =6D85
  =23D1E =6D34 =6E2F =6E6E =3D33 =6ECB =6EC7 =23ED1 =6DF9 =6F6E =23F5E =23F8E =6FC6 =7039 =701E
  =701B =3D96 =704A =707D =7077 =70AD =20525 =7145 =24263 =719C =243AB =7228 =7235 =7250 =24608
  =7280 =7295 =24735 =24814 =737A =738B =3EAC =73A5 =3EB8 =3EB8 =7447 =745C =7471 =7485 =74CA
  =3F1B =7524 =24C36 =753E =24C92 =7570 =2219F =7610 =24FA1 =24FB8 =25044 =3FFC =4008 =76F4 =250F3
  =250F2 =25119 =25133 2F945-2F946=771E =771F =774A =4039 =778B =4046 =4096 =2541D =784E =788C
  =78CC =40E3 =25626 =7956 =2569A =256C5 =798F =79EB =412F =7A40 =7A4A =7A4F =2597C =25AA7 =25AA7
  =7AEE =4202 =25BAB =7BC6 =7BC9 =4227 =25C80 =7CD2 =42A0 =7CE8 =7CE3 =7D00 =25F86 =7D63 =4301
  =7DC7 =7E02 =7E45 =4334 =26228 =26247 =4359 =262D9 =7F7A =2633E =7F95 =7FFA =8005 =264DA =26523
  =8060 =265A8 =8070 =2335F =43D5 =80B2 =8103 =440B =813E =5AB5 =267A7 =267B5 =23393 =2339C =8201
  =8204 =8F9E =446B =8291 =828B =829D =52B3 =82B1 =82B3 =82BD =82E6 =26B3C =82E5 =831D =8363 =83AD
  =8323 =83BD =83E7 =8457 =8353 =83CA =83CC =83DC =26C36 =26D6B =26CD5 =452B =84F1 =84F3 =8516
  =273CA =8564 =26F2C =455D =4561 =26FB1 =270D2 =456B =8650 =865C =8667 =8669 =86A9 =8688 =870E
  =86E2 =8779 =8728 =876B =8786 =45D7 =87E1 =8801 =45F9 =8860 =8863 =27667 =88D7 =88DE =4635 =88FA
  =34BB =278AE =27966 =46BE =46C7 =8AA0 =8AED =8B8A =8C55 =27CA8 =8CAB =8CC1 =8D1B =8D77 =27F2F
  =20804 =8DCB =8DBC =8DF0 =208DE =8ED4 =8F38 =285D2 =285ED =9094 =90F1 =9111 =2872E =911B =9238
  2F9E8-2F9E9=92D7 =927C =93F9 =9415 =28BFA =958B =4995 =95B7 =28D77 =49E6 =96C3 =5DB2 =9723
  =29145 =2921A =4A6E =4A76 =97E0 =2940A =4AB2 =29496 =980B =980B =9829 =295B6 =98E2 =4B33 =9929
  =99A7 =99C2 =99FE =4BCE =29B30 =9B12 =9C40 =9CFD =4CCE =4CED =9D67 =2A0CE =4CF8 =2A105 =2A20E
  =2A291 =9EBB =4D56 =9EF9 =9EFE =9F05 =9F0F =9F16 =9F3B =2A600 E0100-E01EF=
"

/-- Characters that no name has. -/
def unnameable : CharClass where
  ranges := [
    (0x80, 0x9f), (0x378, 0x379), (0x380, 0x383), (0x38b, 0x38b), (0x38d, 0x38d), (0x3a2, 0x3a2),
    (0x530, 0x530), (0x557, 0x558), (0x58b, 0x58c), (0x590, 0x590), (0x5c8, 0x5cf),
    (0x5eb, 0x5ee), (0x5f5, 0x605), (0x61c, 0x61c), (0x6dd, 0x6dd), (0x70e, 0x70f),
    (0x74b, 0x74c), (0x7b2, 0x7bf), (0x7fb, 0x7fc), (0x82e, 0x82f), (0x83f, 0x83f),
    (0x85c, 0x85d), (0x85f, 0x85f), (0x86b, 0x86f), (0x890, 0x896), (0x8e2, 0x8e2),
    (0x984, 0x984), (0x98d, 0x98e), (0x991, 0x992), (0x9a9, 0x9a9), (0x9b1, 0x9b1),
    (0x9b3, 0x9b5), (0x9ba, 0x9bb), (0x9c5, 0x9c6), (0x9c9, 0x9ca), (0x9cf, 0x9d6),
    (0x9d8, 0x9db), (0x9de, 0x9de), (0x9e4, 0x9e5), (0x9ff, 0xa00), (0xa04, 0xa04),
    (0xa0b, 0xa0e), (0xa11, 0xa12), (0xa29, 0xa29), (0xa31, 0xa31), (0xa34, 0xa34),
    (0xa37, 0xa37), (0xa3a, 0xa3b), (0xa3d, 0xa3d), (0xa43, 0xa46), (0xa49, 0xa4a),
    (0xa4e, 0xa50), (0xa52, 0xa58), (0xa5d, 0xa5d), (0xa5f, 0xa65), (0xa77, 0xa80),
    (0xa84, 0xa84), (0xa8e, 0xa8e), (0xa92, 0xa92), (0xaa9, 0xaa9), (0xab1, 0xab1),
    (0xab4, 0xab4), (0xaba, 0xabb), (0xac6, 0xac6), (0xaca, 0xaca), (0xace, 0xacf),
    (0xad1, 0xadf), (0xae4, 0xae5), (0xaf2, 0xaf8), (0xb00, 0xb00), (0xb04, 0xb04),
    (0xb0d, 0xb0e), (0xb11, 0xb12), (0xb29, 0xb29), (0xb31, 0xb31), (0xb34, 0xb34),
    (0xb3a, 0xb3b), (0xb45, 0xb46), (0xb49, 0xb4a), (0xb4e, 0xb54), (0xb58, 0xb5b),
    (0xb5e, 0xb5e), (0xb64, 0xb65), (0xb78, 0xb81), (0xb84, 0xb84), (0xb8b, 0xb8d),
    (0xb91, 0xb91), (0xb96, 0xb98), (0xb9b, 0xb9b), (0xb9d, 0xb9d), (0xba0, 0xba2),
    (0xba5, 0xba7), (0xbab, 0xbad), (0xbba, 0xbbd), (0xbc3, 0xbc5), (0xbc9, 0xbc9),
    (0xbce, 0xbcf), (0xbd1, 0xbd6), (0xbd8, 0xbe5), (0xbfb, 0xbff), (0xc0d, 0xc0d),
    (0xc11, 0xc11), (0xc29, 0xc29), (0xc3a, 0xc3b), (0xc45, 0xc45), (0xc49, 0xc49),
    (0xc4e, 0xc54), (0xc57, 0xc57), (0xc5b, 0xc5b), (0xc5e, 0xc5f), (0xc64, 0xc65),
    (0xc70, 0xc76), (0xc8d, 0xc8d), (0xc91, 0xc91), (0xca9, 0xca9), (0xcb4, 0xcb4),
    (0xcba, 0xcbb), (0xcc5, 0xcc5), (0xcc9, 0xcc9), (0xcce, 0xcd4), (0xcd7, 0xcdb),
    (0xcdf, 0xcdf), (0xce4, 0xce5), (0xcf0, 0xcf0), (0xcf4, 0xcff), (0xd0d, 0xd0d),
    (0xd11, 0xd11), (0xd45, 0xd45), (0xd49, 0xd49), (0xd50, 0xd53), (0xd64, 0xd65),
    (0xd80, 0xd80), (0xd84, 0xd84), (0xd97, 0xd99), (0xdb2, 0xdb2), (0xdbc, 0xdbc),
    (0xdbe, 0xdbf), (0xdc7, 0xdc9), (0xdcb, 0xdce), (0xdd5, 0xdd5), (0xdd7, 0xdd7),
    (0xde0, 0xde5), (0xdf0, 0xdf1), (0xdf5, 0xe00), (0xe3b, 0xe3e), (0xe5c, 0xe80),
    (0xe83, 0xe83), (0xe85, 0xe85), (0xe8b, 0xe8b), (0xea4, 0xea4), (0xea6, 0xea6),
    (0xebe, 0xebf), (0xec5, 0xec5), (0xec7, 0xec7), (0xecf, 0xecf), (0xeda, 0xedb),
    (0xee0, 0xeff), (0xf48, 0xf48), (0xf6d, 0xf70), (0xf98, 0xf98), (0xfbd, 0xfbd),
    (0xfcd, 0xfcd), (0xfdb, 0xfff), (0x10c6, 0x10c6), (0x10c8, 0x10cc), (0x10ce, 0x10cf),
    (0x1249, 0x1249), (0x124e, 0x124f), (0x1257, 0x1257), (0x1259, 0x1259), (0x125e, 0x125f),
    (0x1289, 0x1289), (0x128e, 0x128f), (0x12b1, 0x12b1), (0x12b6, 0x12b7), (0x12bf, 0x12bf),
    (0x12c1, 0x12c1), (0x12c6, 0x12c7), (0x12d7, 0x12d7), (0x1311, 0x1311), (0x1316, 0x1317),
    (0x135b, 0x135c), (0x137d, 0x137f), (0x139a, 0x139f), (0x13f6, 0x13f7), (0x13fe, 0x13ff),
    (0x1680, 0x1680), (0x169d, 0x169f), (0x16f9, 0x16ff), (0x1716, 0x171e), (0x1737, 0x173f),
    (0x1754, 0x175f), (0x176d, 0x176d), (0x1771, 0x1771), (0x1774, 0x177f), (0x17de, 0x17df),
    (0x17ea, 0x17ef), (0x17fa, 0x17ff), (0x181a, 0x181f), (0x1879, 0x187f), (0x18ab, 0x18af),
    (0x18f6, 0x18ff), (0x191f, 0x191f), (0x192c, 0x192f), (0x193c, 0x193f), (0x1941, 0x1943),
    (0x196e, 0x196f), (0x1975, 0x197f), (0x19ac, 0x19af), (0x19ca, 0x19cf), (0x19db, 0x19dd),
    (0x1a1c, 0x1a1d), (0x1a5f, 0x1a5f), (0x1a7d, 0x1a7e), (0x1a8a, 0x1a8f), (0x1a9a, 0x1a9f),
    (0x1aae, 0x1aaf), (0x1ade, 0x1adf), (0x1aec, 0x1aff), (0x1b4d, 0x1b4d), (0x1bf4, 0x1bfb),
    (0x1c38, 0x1c3a), (0x1c4a, 0x1c4c), (0x1c8b, 0x1c8f), (0x1cbb, 0x1cbc), (0x1cc8, 0x1ccf),
    (0x1cfb, 0x1cff), (0x1f16, 0x1f17), (0x1f1e, 0x1f1f), (0x1f46, 0x1f47), (0x1f4e, 0x1f4f),
    (0x1f58, 0x1f58), (0x1f5a, 0x1f5a), (0x1f5c, 0x1f5c), (0x1f5e, 0x1f5e), (0x1f7e, 0x1f7f),
    (0x1fb5, 0x1fb5), (0x1fc5, 0x1fc5), (0x1fd4, 0x1fd5), (0x1fdc, 0x1fdc), (0x1ff0, 0x1ff1),
    (0x1ff5, 0x1ff5), (0x1fff, 0x1fff), (0x200e, 0x200f), (0x2024, 0x2026), (0x2028, 0x202e),
    (0x2065, 0x2069), (0x2072, 0x2073), (0x208f, 0x208f), (0x209d, 0x209f), (0x20c2, 0x20cf),
    (0x20f1, 0x20ff), (0x218c, 0x218f), (0x242a, 0x243f), (0x244b, 0x245f), (0x2488, 0x249b),
    (0x2b74, 0x2b75), (0x2cf4, 0x2cf8), (0x2d26, 0x2d26), (0x2d28, 0x2d2c), (0x2d2e, 0x2d2f),
    (0x2d68, 0x2d6e), (0x2d71, 0x2d7e), (0x2d97, 0x2d9f), (0x2da7, 0x2da7), (0x2daf, 0x2daf),
    (0x2db7, 0x2db7), (0x2dbf, 0x2dbf), (0x2dc7, 0x2dc7), (0x2dcf, 0x2dcf), (0x2dd7, 0x2dd7),
    (0x2ddf, 0x2ddf), (0x2e5e, 0x2e7f), (0x2e9a, 0x2e9a), (0x2ef4, 0x2eff), (0x2fd6, 0x2fff),
    (0x3040, 0x3040), (0x3097, 0x3098), (0x3100, 0x3104), (0x3130, 0x3130), (0x318f, 0x318f),
    (0x31e6, 0x31ef), (0x321f, 0x321f), (0x33c2, 0x33c2), (0x33c7, 0x33c7), (0x33d8, 0x33d8),
    (0xa48d, 0xa48f), (0xa4c7, 0xa4cf), (0xa62c, 0xa63f), (0xa6f8, 0xa6ff), (0xa7dd, 0xa7f0),
    (0xa82d, 0xa82f), (0xa83a, 0xa83f), (0xa878, 0xa87f), (0xa8c6, 0xa8cd), (0xa8da, 0xa8df),
    (0xa954, 0xa95e), (0xa97d, 0xa97f), (0xa9ce, 0xa9ce), (0xa9da, 0xa9dd), (0xa9ff, 0xa9ff),
    (0xaa37, 0xaa3f), (0xaa4e, 0xaa4f), (0xaa5a, 0xaa5b), (0xaac3, 0xaada), (0xaaf7, 0xab00),
    (0xab07, 0xab08), (0xab0f, 0xab10), (0xab17, 0xab1f), (0xab27, 0xab27), (0xab2f, 0xab2f),
    (0xab6c, 0xab6f), (0xabee, 0xabef), (0xabfa, 0xabff), (0xd7a4, 0xd7af), (0xd7c7, 0xd7ca),
    (0xd7fc, 0xf8ff), (0xfa6e, 0xfa6f), (0xfada, 0xfaff), (0xfb07, 0xfb12), (0xfb18, 0xfb1c),
    (0xfb37, 0xfb37), (0xfb3d, 0xfb3d), (0xfb3f, 0xfb3f), (0xfb42, 0xfb42), (0xfb45, 0xfb45),
    (0xfdd0, 0xfdef), (0xfe12, 0xfe12), (0xfe19, 0xfe1f), (0xfe30, 0xfe30), (0xfe52, 0xfe53),
    (0xfe67, 0xfe67), (0xfe6c, 0xfe6f), (0xfe75, 0xfe75), (0xfefd, 0xfefe), (0xff00, 0xff00),
    (0xffbf, 0xffc1), (0xffc8, 0xffc9), (0xffd0, 0xffd1), (0xffd8, 0xffd9), (0xffdd, 0xffdf),
    (0xffe7, 0xffe7), (0xffef, 0xffff), (0x1000c, 0x1000c), (0x10027, 0x10027),
    (0x1003b, 0x1003b), (0x1003e, 0x1003e), (0x1004e, 0x1004f), (0x1005e, 0x1007f),
    (0x100fb, 0x100ff), (0x10103, 0x10106), (0x10134, 0x10136), (0x1018f, 0x1018f),
    (0x1019d, 0x1019f), (0x101a1, 0x101cf), (0x101fe, 0x1027f), (0x1029d, 0x1029f),
    (0x102d1, 0x102df), (0x102fc, 0x102ff), (0x10324, 0x1032c), (0x1034b, 0x1034f),
    (0x1037b, 0x1037f), (0x1039e, 0x1039e), (0x103c4, 0x103c7), (0x103d6, 0x103ff),
    (0x1049e, 0x1049f), (0x104aa, 0x104af), (0x104d4, 0x104d7), (0x104fc, 0x104ff),
    (0x10528, 0x1052f), (0x10564, 0x1056e), (0x1057b, 0x1057b), (0x1058b, 0x1058b),
    (0x10593, 0x10593), (0x10596, 0x10596), (0x105a2, 0x105a2), (0x105b2, 0x105b2),
    (0x105ba, 0x105ba), (0x105bd, 0x105bf), (0x105f4, 0x105ff), (0x10737, 0x1073f),
    (0x10756, 0x1075f), (0x10768, 0x1077f), (0x10786, 0x10786), (0x107b1, 0x107b1),
    (0x107bb, 0x107ff), (0x10806, 0x10807), (0x10809, 0x10809), (0x10836, 0x10836),
    (0x10839, 0x1083b), (0x1083d, 0x1083e), (0x10856, 0x10856), (0x1089f, 0x108a6),
    (0x108b0, 0x108df), (0x108f3, 0x108f3), (0x108f6, 0x108fa), (0x1091c, 0x1091e),
    (0x1093a, 0x1093e), (0x1095a, 0x1097f), (0x109b8, 0x109bb), (0x109d0, 0x109d1),
    (0x10a04, 0x10a04), (0x10a07, 0x10a0b), (0x10a14, 0x10a14), (0x10a18, 0x10a18),
    (0x10a36, 0x10a37), (0x10a3b, 0x10a3e), (0x10a49, 0x10a4f), (0x10a59, 0x10a5f),
    (0x10aa0, 0x10abf), (0x10ae7, 0x10aea), (0x10af7, 0x10aff), (0x10b36, 0x10b38),
    (0x10b56, 0x10b57), (0x10b73, 0x10b77), (0x10b92, 0x10b98), (0x10b9d, 0x10ba8),
    (0x10bb0, 0x10bff), (0x10c49, 0x10c7f), (0x10cb3, 0x10cbf), (0x10cf3, 0x10cf9),
    (0x10d28, 0x10d2f), (0x10d3a, 0x10d3f), (0x10d66, 0x10d68), (0x10d86, 0x10d8d),
    (0x10d90, 0x10e5f), (0x10e7f, 0x10e7f), (0x10eaa, 0x10eaa), (0x10eae, 0x10eaf),
    (0x10eb2, 0x10ec1), (0x10ec8, 0x10ecf), (0x10ed9, 0x10ef9), (0x10f28, 0x10f2f),
    (0x10f5a, 0x10f6f), (0x10f8a, 0x10faf), (0x10fcc, 0x10fdf), (0x10ff7, 0x10fff),
    (0x1104e, 0x11051), (0x11076, 0x1107e), (0x110bd, 0x110bd), (0x110c3, 0x110cf),
    (0x110e9, 0x110ef), (0x110fa, 0x110ff), (0x11135, 0x11135), (0x11148, 0x1114f),
    (0x11177, 0x1117f), (0x111e0, 0x111e0), (0x111f5, 0x111ff), (0x11212, 0x11212),
    (0x11242, 0x1127f), (0x11287, 0x11287), (0x11289, 0x11289), (0x1128e, 0x1128e),
    (0x1129e, 0x1129e), (0x112aa, 0x112af), (0x112eb, 0x112ef), (0x112fa, 0x112ff),
    (0x11304, 0x11304), (0x1130d, 0x1130e), (0x11311, 0x11312), (0x11329, 0x11329),
    (0x11331, 0x11331), (0x11334, 0x11334), (0x1133a, 0x1133a), (0x11345, 0x11346),
    (0x11349, 0x1134a), (0x1134e, 0x1134f), (0x11351, 0x11356), (0x11358, 0x1135c),
    (0x11364, 0x11365), (0x1136d, 0x1136f), (0x11375, 0x1137f), (0x1138a, 0x1138a),
    (0x1138c, 0x1138d), (0x1138f, 0x1138f), (0x113b6, 0x113b6), (0x113c1, 0x113c1),
    (0x113c3, 0x113c4), (0x113c6, 0x113c6), (0x113cb, 0x113cb), (0x113d6, 0x113d6),
    (0x113d9, 0x113e0), (0x113e3, 0x113ff), (0x1145c, 0x1145c), (0x11462, 0x1147f),
    (0x114c8, 0x114cf), (0x114da, 0x1157f), (0x115b6, 0x115b7), (0x115de, 0x115ff),
    (0x11645, 0x1164f), (0x1165a, 0x1165f), (0x1166d, 0x1167f), (0x116ba, 0x116bf),
    (0x116ca, 0x116cf), (0x116e4, 0x116ff), (0x1171b, 0x1171c), (0x1172c, 0x1172f),
    (0x11747, 0x117ff), (0x1183c, 0x1189f), (0x118f3, 0x118fe), (0x11907, 0x11908),
    (0x1190a, 0x1190b), (0x11914, 0x11914), (0x11917, 0x11917), (0x11936, 0x11936),
    (0x11939, 0x1193a), (0x11947, 0x1194f), (0x1195a, 0x1199f), (0x119a8, 0x119a9),
    (0x119d8, 0x119d9), (0x119e5, 0x119ff), (0x11a48, 0x11a4f), (0x11aa3, 0x11aaf),
    (0x11af9, 0x11aff), (0x11b0a, 0x11b5f), (0x11b68, 0x11bbf), (0x11be2, 0x11bef),
    (0x11bfa, 0x11bff), (0x11c09, 0x11c09), (0x11c37, 0x11c37), (0x11c46, 0x11c4f),
    (0x11c6d, 0x11c6f), (0x11c90, 0x11c91), (0x11ca8, 0x11ca8), (0x11cb7, 0x11cff),
    (0x11d07, 0x11d07), (0x11d0a, 0x11d0a), (0x11d37, 0x11d39), (0x11d3b, 0x11d3b),
    (0x11d3e, 0x11d3e), (0x11d48, 0x11d4f), (0x11d5a, 0x11d5f), (0x11d66, 0x11d66),
    (0x11d69, 0x11d69), (0x11d8f, 0x11d8f), (0x11d92, 0x11d92), (0x11d99, 0x11d9f),
    (0x11daa, 0x11daf), (0x11ddc, 0x11ddf), (0x11dea, 0x11edf), (0x11ef9, 0x11eff),
    (0x11f11, 0x11f11), (0x11f3b, 0x11f3d), (0x11f5b, 0x11faf), (0x11fb1, 0x11fbf),
    (0x11ff2, 0x11ffe), (0x1239a, 0x123ff), (0x1246f, 0x1246f), (0x12475, 0x1247f),
    (0x12544, 0x12f8f), (0x12ff3, 0x12fff), (0x13430, 0x1343f), (0x13456, 0x1345f),
    (0x143fb, 0x143ff), (0x14647, 0x160ff), (0x1613a, 0x167ff), (0x16a39, 0x16a3f),
    (0x16a5f, 0x16a5f), (0x16a6a, 0x16a6d), (0x16abf, 0x16abf), (0x16aca, 0x16acf),
    (0x16aee, 0x16aef), (0x16af6, 0x16aff), (0x16b46, 0x16b4f), (0x16b5a, 0x16b5a),
    (0x16b62, 0x16b62), (0x16b78, 0x16b7c), (0x16b90, 0x16d3f), (0x16d7a, 0x16e3f),
    (0x16e9b, 0x16e9f), (0x16eb9, 0x16eba), (0x16ed4, 0x16eff), (0x16f4b, 0x16f4e),
    (0x16f88, 0x16f8e), (0x16fa0, 0x16fdf), (0x16fe5, 0x16fef), (0x16ff7, 0x16fff),
    (0x18cd6, 0x18cfe), (0x18d1f, 0x18d7f), (0x18df3, 0x1afef), (0x1aff4, 0x1aff4),
    (0x1affc, 0x1affc), (0x1afff, 0x1afff), (0x1b123, 0x1b131), (0x1b133, 0x1b14f),
    (0x1b153, 0x1b154), (0x1b156, 0x1b163), (0x1b168, 0x1b16f), (0x1b2fc, 0x1bbff),
    (0x1bc6b, 0x1bc6f), (0x1bc7d, 0x1bc7f), (0x1bc89, 0x1bc8f), (0x1bc9a, 0x1bc9b),
    (0x1bca4, 0x1cbff), (0x1ccfd, 0x1ccff), (0x1ceb4, 0x1ceb9), (0x1ced1, 0x1cedf),
    (0x1cef1, 0x1ceff), (0x1cf2e, 0x1cf2f), (0x1cf47, 0x1cf4f), (0x1cfc4, 0x1cfff),
    (0x1d0f6, 0x1d0ff), (0x1d127, 0x1d128), (0x1d1eb, 0x1d1ff), (0x1d246, 0x1d2bf),
    (0x1d2d4, 0x1d2df), (0x1d2f4, 0x1d2ff), (0x1d357, 0x1d35f), (0x1d379, 0x1d3ff),
    (0x1d455, 0x1d455), (0x1d49d, 0x1d49d), (0x1d4a0, 0x1d4a1), (0x1d4a3, 0x1d4a4),
    (0x1d4a7, 0x1d4a8), (0x1d4ad, 0x1d4ad), (0x1d4ba, 0x1d4ba), (0x1d4bc, 0x1d4bc),
    (0x1d4c4, 0x1d4c4), (0x1d506, 0x1d506), (0x1d50b, 0x1d50c), (0x1d515, 0x1d515),
    (0x1d51d, 0x1d51d), (0x1d53a, 0x1d53a), (0x1d53f, 0x1d53f), (0x1d545, 0x1d545),
    (0x1d547, 0x1d549), (0x1d551, 0x1d551), (0x1d6a6, 0x1d6a7), (0x1d7cc, 0x1d7cd),
    (0x1da8c, 0x1da9a), (0x1daa0, 0x1daa0), (0x1dab0, 0x1deff), (0x1df1f, 0x1df24),
    (0x1df2b, 0x1dfff), (0x1e007, 0x1e007), (0x1e019, 0x1e01a), (0x1e022, 0x1e022),
    (0x1e025, 0x1e025), (0x1e02b, 0x1e02f), (0x1e06e, 0x1e08e), (0x1e090, 0x1e0ff),
    (0x1e12d, 0x1e12f), (0x1e13e, 0x1e13f), (0x1e14a, 0x1e14d), (0x1e150, 0x1e28f),
    (0x1e2af, 0x1e2bf), (0x1e2fa, 0x1e2fe), (0x1e300, 0x1e4cf), (0x1e4fa, 0x1e5cf),
    (0x1e5fb, 0x1e5fe), (0x1e600, 0x1e6bf), (0x1e6df, 0x1e6df), (0x1e6f6, 0x1e6fd),
    (0x1e700, 0x1e7df), (0x1e7e7, 0x1e7e7), (0x1e7ec, 0x1e7ec), (0x1e7ef, 0x1e7ef),
    (0x1e7ff, 0x1e7ff), (0x1e8c5, 0x1e8c6), (0x1e8d7, 0x1e8ff), (0x1e94c, 0x1e94f),
    (0x1e95a, 0x1e95d), (0x1e960, 0x1ec70), (0x1ecb5, 0x1ed00), (0x1ed3e, 0x1edff),
    (0x1ee04, 0x1ee04), (0x1ee20, 0x1ee20), (0x1ee23, 0x1ee23), (0x1ee25, 0x1ee26),
    (0x1ee28, 0x1ee28), (0x1ee33, 0x1ee33), (0x1ee38, 0x1ee38), (0x1ee3a, 0x1ee3a),
    (0x1ee3c, 0x1ee41), (0x1ee43, 0x1ee46), (0x1ee48, 0x1ee48), (0x1ee4a, 0x1ee4a),
    (0x1ee4c, 0x1ee4c), (0x1ee50, 0x1ee50), (0x1ee53, 0x1ee53), (0x1ee55, 0x1ee56),
    (0x1ee58, 0x1ee58), (0x1ee5a, 0x1ee5a), (0x1ee5c, 0x1ee5c), (0x1ee5e, 0x1ee5e),
    (0x1ee60, 0x1ee60), (0x1ee63, 0x1ee63), (0x1ee65, 0x1ee66), (0x1ee6b, 0x1ee6b),
    (0x1ee73, 0x1ee73), (0x1ee78, 0x1ee78), (0x1ee7d, 0x1ee7d), (0x1ee7f, 0x1ee7f),
    (0x1ee8a, 0x1ee8a), (0x1ee9c, 0x1eea0), (0x1eea4, 0x1eea4), (0x1eeaa, 0x1eeaa),
    (0x1eebc, 0x1eeef), (0x1eef2, 0x1efff), (0x1f02c, 0x1f02f), (0x1f094, 0x1f09f),
    (0x1f0af, 0x1f0b0), (0x1f0c0, 0x1f0c0), (0x1f0d0, 0x1f0d0), (0x1f0f6, 0x1f100),
    (0x1f1ae, 0x1f1e5), (0x1f203, 0x1f20f), (0x1f23c, 0x1f23f), (0x1f249, 0x1f24f),
    (0x1f252, 0x1f25f), (0x1f266, 0x1f2ff), (0x1f6d9, 0x1f6db), (0x1f6ed, 0x1f6ef),
    (0x1f6fd, 0x1f6ff), (0x1f7da, 0x1f7df), (0x1f7ec, 0x1f7ef), (0x1f7f1, 0x1f7ff),
    (0x1f80c, 0x1f80f), (0x1f848, 0x1f84f), (0x1f85a, 0x1f85f), (0x1f888, 0x1f88f),
    (0x1f8ae, 0x1f8af), (0x1f8bc, 0x1f8bf), (0x1f8c2, 0x1f8cf), (0x1f8d9, 0x1f8ff),
    (0x1fa58, 0x1fa5f), (0x1fa6e, 0x1fa6f), (0x1fa7d, 0x1fa7f), (0x1fa8b, 0x1fa8d),
    (0x1fac7, 0x1fac7), (0x1fac9, 0x1facc), (0x1fadd, 0x1fade), (0x1faeb, 0x1faee),
    (0x1faf9, 0x1faff), (0x1fb93, 0x1fb93), (0x1fbfb, 0x1ffff), (0x2a6e0, 0x2a6ff),
    (0x2b81e, 0x2b81f), (0x2ceae, 0x2ceaf), (0x2ebe1, 0x2ebef), (0x2ee5e, 0x2f7ff),
    (0x2fa1e, 0x2ffff), (0x3134b, 0x3134f), (0x3347a, 0xe00ff), (0xe01f0, 0x10ffff)
  ]

/-- What is spelled for a character that is typed for a name. Nothing for one that no name has. -/
def spellChar? (c : Char) : Option (List Char) :=
  if c.toNat < 0x80 then some [c.toLower]
  else if unnameable.has c then none
  else some ((respelled? nameSpellings c).getD [c])

/-- What is spelled for a text that is typed for a name. -/
def spell? (cs : List Char) : Option (List Char) := (cs.mapM spellChar?).map List.flatten

end AnalysisPanel.Url
